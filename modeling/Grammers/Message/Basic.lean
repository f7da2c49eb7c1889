import Grammers.Tl

/-!
# The message snapshot

`types::Message` is the client's one representation of a message, whatever shape it arrived in:
the full `tl::types::Message` it stores as `raw`, the service action kept apart as
`raw_action`, and the chats of the response it came in.  This file defines it, the constructors
`from_raw` and `from_raw_short_updates` that build it from the three wire shapes, and the plain
readers of it; the readers that decode the reply header are in `Grammers.Message.Topic`, the
reaction sum in `Grammers.Message.Reactions`.

The snapshot's `client` handle is left out: no function modelled here reads it other than to
pass it to a collaborator, and `Schema.alwaysFindEntity` is taken without it.
-/

set_option autoImplicit false

namespace Grammers

variable {S : Schema}

/-- `EMPTY_MESSAGE`: a `tl::types::Message` with every flag off, every optional field absent,
and the identifiers zero. -/
def emptyMessage (S : Schema) : Tl.Types.Message S where
  out := false
  mentioned := false
  mediaUnread := false
  silent := false
  post := false
  fromScheduled := false
  legacy := false
  editHide := false
  pinned := false
  noforwards := false
  invertMedia := false
  offline := false
  videoProcessingPending := false
  id := 0
  fromId := none
  fromBoostsApplied := none
  peerId := .user 0
  savedPeerId := none
  fwdFrom := none
  viaBotId := none
  viaBusinessBotId := none
  replyTo := none
  date := 0
  message := ""
  media := none
  replyMarkup := none
  entities := none
  views := none
  forwards := none
  replies := none
  editDate := none
  postAuthor := none
  groupedId := none
  reactions := none
  restrictionReason := none
  ttlPeriod := none
  quickReplyShortcutId := none
  effect := none
  factcheck := none
  reportDeliveryUntilDate := none

/-- `types::Message`: a snapshot of a message.  Service messages are stored as ordinary messages,
with their action kept apart in `rawAction`. -/
structure Message (S : Schema) where
  /-- The message as a full `tl::types::Message`. -/
  raw : Tl.Types.Message S
  /-- The action, for a service message. -/
  rawAction : Option S.MessageAction
  /-- The chats of the response the message came in. -/
  chats : S.ChatMap

/-- `types::InputMessage`, a message about to be sent, with the fields
`from_raw_short_updates` reads. -/
structure InputMessage (S : Schema) where
  text : String
  replyTo : Option I32
  replyMarkup : Option S.ReplyMarkup
  silent : Bool
  invertMedia : Bool

namespace Message

/-! ## Building a snapshot -/

/-- `Message::from_raw`.  An empty message is dropped; a service message is widened to a full
message, each field it lacks set to its default. -/
def fromRaw (message : Tl.Enums.Message S) (chats : S.ChatMap) : Option (Message S) :=
  match message with
  | .empty _ => none
  | .message msg => some { raw := msg, rawAction := none, chats := chats }
  | .service msg => some {
      raw := {
        out := msg.out
        mentioned := msg.mentioned
        mediaUnread := msg.mediaUnread
        silent := msg.silent
        post := msg.post
        fromScheduled := false
        legacy := msg.legacy
        editHide := false
        pinned := false
        noforwards := false
        invertMedia := false
        videoProcessingPending := false
        id := msg.id
        fromId := msg.fromId
        fromBoostsApplied := none
        peerId := msg.peerId
        savedPeerId := none
        fwdFrom := none
        viaBotId := none
        replyTo := msg.replyTo
        date := msg.date
        message := ""
        media := none
        replyMarkup := none
        entities := none
        views := none
        forwards := none
        replies := none
        editDate := none
        postAuthor := none
        groupedId := none
        restrictionReason := none
        ttlPeriod := msg.ttlPeriod
        reactions := none
        quickReplyShortcutId := none
        viaBusinessBotId := none
        offline := false
        effect := none
        factcheck := none
        reportDeliveryUntilDate := none }
      rawAction := some msg.action
      chats := chats }

/-- The reply header `from_raw_short_updates` writes for a reply to `replyToMsgId`: not a forum
topic, no thread, no quote. -/
def shortReplyHeader (replyToMsgId : I32) : Tl.Types.MessageReplyHeader S where
  replyToScheduled := false
  forumTopic := false
  quote := false
  replyToMsgId := some replyToMsgId
  replyToPeerId := none
  replyFrom := none
  replyMedia := none
  replyToTopId := none
  quoteText := none
  quoteEntities := none
  quoteOffset := none

/-- `Message::from_raw_short_updates`: the snapshot of a message we sent, put together from the
request and the server's short acknowledgment. -/
def fromRawShortUpdates (updates : Tl.Types.UpdateShortSentMessage S) (input : InputMessage S)
    (chat : S.PackedChat) : Message S where
  raw := {
    out := updates.out
    mentioned := false
    mediaUnread := false
    silent := input.silent
    post := false
    fromScheduled := false
    legacy := false
    editHide := false
    pinned := false
    noforwards := false
    videoProcessingPending := false
    invertMedia := input.invertMedia
    id := updates.id
    fromId := none
    fromBoostsApplied := none
    peerId := S.toPeer chat
    savedPeerId := none
    fwdFrom := none
    viaBotId := none
    replyTo := input.replyTo.map fun replyToMsgId => S.replyHeaderInto.wrap
      (shortReplyHeader replyToMsgId)
    date := updates.date
    message := input.text
    media := updates.media
    replyMarkup := input.replyMarkup
    entities := updates.entities
    views := none
    forwards := none
    replies := none
    editDate := none
    postAuthor := none
    groupedId := none
    restrictionReason := none
    ttlPeriod := updates.ttlPeriod
    reactions := none
    quickReplyShortcutId := none
    viaBusinessBotId := none
    offline := false
    effect := none
    factcheck := none
    reportDeliveryUntilDate := none }
  rawAction := none
  chats := S.chatMapSingle (S.unpack chat)

/-! ## Reading a snapshot -/

/-- `Message::outgoing` -/
def outgoing (m : Message S) : Bool := m.raw.out

/-- `Message::id` -/
def id (m : Message S) : I32 := m.raw.id

/-- `Message::text`: empty for a service message. -/
def text (m : Message S) : String := m.raw.message

/-- `Message::action`: present exactly for a service message. -/
def action (m : Message S) : Option S.MessageAction := m.rawAction

/-- `Message::chat`: the chat the message was sent to. -/
def chat (m : Message S) : S.Chat := S.alwaysFindEntity m.raw.peerId m.chats

/-- `Message::sender`.  Incoming private messages carry no `from_id` since layer 119; their
sender can only be the chat itself. -/
def sender (m : Message S) : Option S.Chat :=
  (m.raw.fromId.or
      (if !m.raw.out && m.raw.peerId matches .user _ then some m.raw.peerId else none)).map
    fun peer => S.alwaysFindEntity peer m.chats

/-- `Message::reply_count` -/
def replyCount (m : Message S) : Option I32 := m.raw.replies.map fun replies => replies.replies

end Message
end Grammers
