import Grammers.Message.Topic

/-!
# Normalising the three wire shapes

The specification (§4.1) asks that the three shapes a message arrives in become one snapshot
without losing what downstream readers need: an empty message becomes nothing, a full message
is kept as it is, a service message is widened to a full one with its action kept apart, and the
acknowledgment of a message we sent is completed from the request.

## What is here

* `fromRaw_service_raw` — the widened service record, as a whole: `EMPTY_MESSAGE` with exactly
  the service record's fields written over it.  Nothing is left over from elsewhere, and no
  field the service record carries is dropped, the reply header included.
* `fromRaw_spec` — what `from_raw` makes of each shape, down to the readers: a service message
  keeps its identifier, direction, reply target and forum topic.
* `fromRawShortUpdates_spec` — the reply target of a sent message survives the round trip
  through the reply header it is encoded in, whichever constructor `.into()` picks, and the
  message is never placed in a topic.
-/

set_option autoImplicit false

namespace Grammers

variable {S : Schema}

namespace Message

/-- **The widened service record.**  It is `EMPTY_MESSAGE`, with the fields a service message
carries copied from it. -/
theorem fromRaw_service_raw (s : Tl.Types.MessageService S) (chats : S.ChatMap) :
    fromRaw (.service s) chats = some {
      raw := { emptyMessage S with
        out := s.out, mentioned := s.mentioned, mediaUnread := s.mediaUnread, silent := s.silent,
        post := s.post, legacy := s.legacy, id := s.id, fromId := s.fromId, peerId := s.peerId,
        replyTo := s.replyTo, date := s.date, ttlPeriod := s.ttlPeriod }
      rawAction := some s.action
      chats := chats } := rfl

theorem fromRaw_isNone_iff (w : Tl.Enums.Message S) (chats : S.ChatMap) :
    (fromRaw w chats).isNone ↔ ∃ e, w = .empty e := by
  cases w with
  | empty e => exact ⟨fun _ => ⟨e, rfl⟩, fun _ => rfl⟩
  | _ => simp [fromRaw]

/-- **`from_raw` on each shape.**  Only an empty message is dropped.  A full message is kept as
it is.  A service message gets empty text and its action; everything the service shape does not
carry is absent or off; everything it does carry is copied, so the readers built on it — the
identifier, the direction and the three reply readers — answer as they would on the service
record itself. -/
theorem fromRaw_spec (w : Tl.Enums.Message S) (chats : S.ChatMap) :
    ((fromRaw w chats).isNone ↔ ∃ e, w = .empty e) ∧
    (∀ msg, w = .message msg →
      ∃ m, fromRaw w chats = some m ∧ m.raw = msg ∧ m.action = none) ∧
    (∀ s, w = .service s → ∃ m, fromRaw w chats = some m ∧
      m.text = "" ∧ m.action = some s.action ∧
      m.raw.media = none ∧ m.raw.entities = none ∧ m.raw.replyMarkup = none ∧
      m.raw.views = none ∧ m.raw.forwards = none ∧ m.raw.replies = none ∧
      m.raw.reactions = none ∧ m.raw.editDate = none ∧ m.raw.groupedId = none ∧
      m.raw.postAuthor = none ∧
      m.raw.pinned = false ∧ m.raw.editHide = false ∧ m.raw.fromScheduled = false ∧
      m.raw.id = s.id ∧ m.raw.out = s.out ∧ m.raw.mentioned = s.mentioned ∧
      m.raw.mediaUnread = s.mediaUnread ∧ m.raw.silent = s.silent ∧ m.raw.post = s.post ∧
      m.raw.legacy = s.legacy ∧ m.raw.fromId = s.fromId ∧ m.raw.peerId = s.peerId ∧
      m.raw.replyTo = s.replyTo ∧ m.raw.date = s.date ∧ m.raw.ttlPeriod = s.ttlPeriod ∧
      m.id = s.id ∧ m.outgoing = s.out ∧
      m.replyToMessageId = ReplyTo.replyToMessageId s.replyTo ∧
      m.isForumTopic = ReplyTo.isForumTopic s.replyTo ∧
      m.topicId = ReplyTo.topicId s.replyTo) := by
  refine ⟨fromRaw_isNone_iff w chats, ?_, ?_⟩
  · rintro msg rfl
    exact ⟨_, rfl, rfl, rfl⟩
  · rintro s rfl
    refine ⟨_, fromRaw_service_raw s chats, ?_⟩
    repeat' constructor

/-! ## The acknowledgment of a sent message -/

theorem descriptor_wrap (v : ReplyHeaderVariant) (h : Tl.Types.MessageReplyHeader S) :
    descriptor (some (v.wrap h)) = some ⟨h.forumTopic, h.replyToTopId, h.replyToMsgId⟩ := by
  cases v <;> rfl

/-- The reply header of a sent message describes a plain reply to the request's target. -/
theorem descriptor_fromRawShortUpdates (updates : Tl.Types.UpdateShortSentMessage S)
    (input : InputMessage S) (chat : S.PackedChat) :
    descriptor (fromRawShortUpdates updates input chat).raw.replyTo =
      input.replyTo.map fun id => ⟨false, none, some id⟩ := by
  obtain ⟨_, _ | id, _, _, _⟩ := input
  · rfl
  · exact descriptor_wrap _ _

/-- **The reply target round-trips.**  The snapshot of a sent message replies to what the
request replied to, is not in a forum topic, has no action, and has the acknowledged identifier
and the requested text. -/
theorem fromRawShortUpdates_spec (updates : Tl.Types.UpdateShortSentMessage S)
    (input : InputMessage S) (chat : S.PackedChat) :
    let m := fromRawShortUpdates updates input chat
    m.replyToMessageId = input.replyTo ∧ m.isForumTopic = false ∧ m.topicId = none ∧
      m.action = none ∧ m.id = updates.id ∧ m.text = input.text := by
  have hd := descriptor_fromRawShortUpdates updates input chat
  simp only [replyToMessageId, isForumTopic, topicId, ReplyTo.replyToMessageId_eq_descriptor,
    ReplyTo.isForumTopic_eq_descriptor, ReplyTo.topicId_eq_resolve, hd]
  refine ⟨?_, ?_, ?_, rfl, rfl, rfl⟩ <;> cases input.replyTo <;> rfl

end Message
end Grammers
