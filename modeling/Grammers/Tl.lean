import Mathlib.Data.List.Basic

/-!
# The wire records

The client receives messages as records of Telegram's type language, generated into
`grammers_tl_types` as `tl::types::*` (a struct per constructor) and `tl::enums::*` (an enum per
type, a variant per constructor).  That crate is not part of this development: this file writes
down the constructors that `types/message.rs` reads or builds, with the fields it reads or
builds, under their own names.

* `I32` and `I64` are Rust's `i32` and `i64` as bit patterns.  The only arithmetic on them is the
  `i32` sum in `reaction_count`, which `Grammers.Message.Reactions` models with Rust's overflow
  rules.
* What the client copies between records without looking inside — media, markup, entities,
  forward headers, service actions — is left abstract.  A `Schema` names a type for each, and
  every definition and theorem of the development is stated for every `Schema`.  The pieces of
  grammers' other crates that the modelled code only calls (chats and their registry, packed
  chats, the errors, the other kinds of update) are parameters of the `Schema` as well.
* An enum with a single constructor (`MessageReactions::Reactions`, `ReactionCount::Count`,
  `MessageReplies::Replies`) is written as that constructor's struct; the source destructures
  them with irrefutable `let`s.
* `enums::MessageReplyHeader` is written with the constructors `types/message.rs` matches on:
  `Header` and `MessageReplyHeader`, each carrying a `types::MessageReplyHeader`, which `topic_id`
  and its siblings read alike, and the others, which they do not look into.  The enum grammers
  generates has `Header` and the story header only: the source's `MessageReplyHeader` arms
  (lines 528, 541, 560 and 612 of `types/message.rs`) name a variant it lacks, and do not compile
  against it.  The model keeps those arms as the source writes them; the extra constructor only
  adds inputs, and what is proved holds for them as well.
* `types::MessageEmpty` carries no field here: nothing in `types/message.rs` reads one.
-/

set_option autoImplicit false

namespace Grammers

/-- Rust's `i32`, as the bit pattern of its two's complement. -/
abbrev I32 := BitVec 32

/-- Rust's `i64`. -/
abbrev I64 := BitVec 64

/-- `tl::enums::Peer`: the user, small group or channel a message belongs to or comes from. -/
inductive Peer where
  | user (userId : I64)
  | chat (chatId : I64)
  | channel (channelId : I64)
  deriving DecidableEq, Repr

/-- The two constructors of `tl::enums::MessageReplyHeader`, as `types/message.rs` names them,
that carry a `tl::types::MessageReplyHeader` (the generated enum has the first only).  Which of
them `.into()` produces is the generated `From` impl's business; `Schema.replyHeaderInto` records
it. -/
inductive ReplyHeaderVariant where
  | header
  | messageReplyHeader
  deriving DecidableEq, Repr

/-- The parts of the type language and of grammers' other crates that the modelled code only
passes along. -/
structure Schema where
  /-- `tl::enums::MessageMedia` -/
  MessageMedia : Type
  /-- `tl::enums::ReplyMarkup` -/
  ReplyMarkup : Type
  /-- `tl::enums::MessageEntity` -/
  MessageEntity : Type
  /-- `tl::enums::MessageFwdHeader` -/
  MessageFwdHeader : Type
  /-- `tl::enums::RestrictionReason` -/
  RestrictionReason : Type
  /-- `tl::enums::FactCheck` -/
  FactCheck : Type
  /-- `tl::enums::MessageAction` -/
  MessageAction : Type
  /-- The constructors of `tl::enums::MessageReplyHeader` other than the two header ones. -/
  OtherReplyHeader : Type
  /-- The variant `From<types::MessageReplyHeader>` wraps a header in. -/
  replyHeaderInto : ReplyHeaderVariant
  /-- `types::Chat`, a chat as the client presents it. -/
  Chat : Type
  /-- `Chat::name` -/
  chatName : Chat → Option String
  /-- `Chat::id` -/
  chatId : Chat → I64
  /-- `ChatMap`, the chats of one server response. -/
  ChatMap : Type
  /-- `ChatMap::single` -/
  chatMapSingle : Chat → ChatMap
  /-- `utils::always_find_entity`: the chat a peer names, found in the map or made up. -/
  alwaysFindEntity : Peer → ChatMap → Chat
  /-- `grammers_session::PackedChat` -/
  PackedChat : Type
  /-- `PackedChat::to_peer` -/
  toPeer : PackedChat → Peer
  /-- `Chat::unpack` -/
  unpack : PackedChat → Chat
  /-- The variants of `grammers_client::Update` other than `NewMessage`. -/
  OtherUpdate : Type
  /-- `grammers_mtsender::InvocationError`, what a request to the server fails with. -/
  InvocationError : Type
  /-- Its `Display`. -/
  displayInvocationError : InvocationError → String
  /-- `std::io::Error` -/
  IoError : Type
  /-- Its `Display`. -/
  displayIoError : IoError → String

/-- The schema with nothing in its payloads, on which the model can be run on concrete records. -/
def Schema.unit : Schema where
  MessageMedia := Unit
  ReplyMarkup := Unit
  MessageEntity := Unit
  MessageFwdHeader := Unit
  RestrictionReason := Unit
  FactCheck := Unit
  MessageAction := Unit
  OtherReplyHeader := Unit
  replyHeaderInto := .header
  Chat := Unit
  chatName _ := none
  chatId _ := 0
  ChatMap := Unit
  chatMapSingle _ := ()
  alwaysFindEntity _ _ := ()
  PackedChat := Unit
  toPeer _ := .user 0
  unpack _ := ()
  OtherUpdate := Unit
  InvocationError := Unit
  displayInvocationError _ := "request failed"
  IoError := Unit
  displayIoError _ := "write failed"

variable (S : Schema)

namespace Tl
namespace Types

/-- `tl::types::MessageReplyHeader`. -/
structure MessageReplyHeader where
  replyToScheduled : Bool
  forumTopic : Bool
  quote : Bool
  replyToMsgId : Option I32
  replyToPeerId : Option Peer
  replyFrom : Option S.MessageFwdHeader
  replyMedia : Option S.MessageMedia
  replyToTopId : Option I32
  quoteText : Option String
  quoteEntities : Option (List S.MessageEntity)
  quoteOffset : Option I32

/-- `tl::types::ReactionCount`, with the one field the client reads. -/
structure ReactionCount where
  count : I32
  deriving DecidableEq, Repr

/-- `tl::types::MessageReactions`, with the one field the client reads. -/
structure MessageReactions where
  results : List ReactionCount
  deriving DecidableEq, Repr

/-- `tl::types::MessageReplies`, with the one field the client reads. -/
structure MessageReplies where
  replies : I32
  deriving DecidableEq, Repr

end Types

namespace Enums

/-- `tl::enums::MessageReplyHeader`, with the constructors `types/message.rs` matches on: `Header`,
`MessageReplyHeader` (a name the generated enum lacks) and the rest. -/
inductive MessageReplyHeader where
  | header (m : Types.MessageReplyHeader S)
  | messageReplyHeader (m : Types.MessageReplyHeader S)
  | other (h : S.OtherReplyHeader)

end Enums

namespace Types

/-- `tl::types::Message`, every field of it: the client's snapshot stores one, and building one
for a service message or a sent message means writing all of them. -/
structure Message where
  out : Bool
  mentioned : Bool
  mediaUnread : Bool
  silent : Bool
  post : Bool
  fromScheduled : Bool
  legacy : Bool
  editHide : Bool
  pinned : Bool
  noforwards : Bool
  invertMedia : Bool
  offline : Bool
  videoProcessingPending : Bool
  id : I32
  fromId : Option Peer
  fromBoostsApplied : Option I32
  peerId : Peer
  savedPeerId : Option Peer
  fwdFrom : Option S.MessageFwdHeader
  viaBotId : Option I64
  viaBusinessBotId : Option I64
  replyTo : Option (Enums.MessageReplyHeader S)
  date : I32
  message : String
  media : Option S.MessageMedia
  replyMarkup : Option S.ReplyMarkup
  entities : Option (List S.MessageEntity)
  views : Option I32
  forwards : Option I32
  replies : Option MessageReplies
  editDate : Option I32
  postAuthor : Option String
  groupedId : Option I64
  reactions : Option MessageReactions
  restrictionReason : Option (List S.RestrictionReason)
  ttlPeriod : Option I32
  quickReplyShortcutId : Option I32
  effect : Option I64
  factcheck : Option S.FactCheck
  reportDeliveryUntilDate : Option I32

/-- `tl::types::MessageService`, with the fields `Message::from_raw` reads. -/
structure MessageService where
  out : Bool
  mentioned : Bool
  mediaUnread : Bool
  silent : Bool
  post : Bool
  legacy : Bool
  id : I32
  fromId : Option Peer
  peerId : Peer
  replyTo : Option (Enums.MessageReplyHeader S)
  date : I32
  action : S.MessageAction
  ttlPeriod : Option I32

/-- `tl::types::MessageEmpty`: a deleted or inaccessible message.  Its fields, the identifier and
the peer, are read by nothing in `types/message.rs`, which only tells this shape apart. -/
structure MessageEmpty where
  deriving DecidableEq, Repr

/-- `tl::types::UpdateShortSentMessage`, the server's acknowledgment of a sent message, with the
fields `Message::from_raw_short_updates` reads. -/
structure UpdateShortSentMessage where
  out : Bool
  id : I32
  date : I32
  media : Option S.MessageMedia
  entities : Option (List S.MessageEntity)
  ttlPeriod : Option I32

end Types

namespace Enums

/-- `tl::enums::Message`: the three shapes a message arrives in. -/
inductive Message where
  | empty (m : Types.MessageEmpty)
  | message (m : Types.Message S)
  | service (m : Types.MessageService S)

end Enums
end Tl

/-- The constructor a `ReplyHeaderVariant` names. -/
def ReplyHeaderVariant.wrap {S : Schema} :
    ReplyHeaderVariant → Tl.Types.MessageReplyHeader S → Tl.Enums.MessageReplyHeader S
  | .header => .header
  | .messageReplyHeader => .messageReplyHeader

end Grammers
