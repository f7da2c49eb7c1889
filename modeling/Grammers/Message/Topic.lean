import Grammers.Message.Basic

/-!
# Forum topics

Telegram does not say which forum topic a message is in.  It says so through the message's reply
header: a reply in a topic has `forum_topic` set and the topic's root in `reply_to_top_id`, while
a direct reply to the root — or the first message after it — has only `reply_to_msg_id`, which
then names the root.  `Message::topic_id` decodes that, and `reply_to_message_id` and
`is_forum_topic` read the same header by separate matches of their own.

## What is here

* The three readers, as functions of the `reply_to` field (`ReplyTo.*`), and the snapshot's
  methods as those readers applied to `raw.reply_to`.
* `ReplyDescriptor` and `resolve` — the specification's view: one descriptor with the three
  fields, read by the four-step rule of its §4.2.  `topicId_eq_resolve` and its two siblings
  show that the code's three matches are that descriptor's projections, for every header
  constructor, the catch-all included.
* `topicId_eq_if_isForumTopic` — the three readers agree on every message; and what the filter
  `is_in_topics`, which the example calls, answers (`isInTopics_iff`).
-/

set_option autoImplicit false

namespace Grammers

variable {S : Schema}

namespace ReplyTo

/-- `Message::reply_to_message_id`, on the message's `reply_to`. -/
def replyToMessageId : Option (Tl.Enums.MessageReplyHeader S) → Option I32
  | some (.header m) => m.replyToMsgId
  | some (.messageReplyHeader m) => m.replyToMsgId
  | _ => none

/-- `Message::is_forum_topic`, on the message's `reply_to`. -/
def isForumTopic : Option (Tl.Enums.MessageReplyHeader S) → Bool
  | some (.header m) => m.forumTopic
  | some (.messageReplyHeader m) => m.forumTopic
  | _ => false

/-- `Message::topic_id`, on the message's `reply_to`: the thread's top message if the header
names one, else the message replied to, which for the first messages of a topic is its root. -/
def topicId : Option (Tl.Enums.MessageReplyHeader S) → Option I32
  | some header =>
    let (forumTopic, replyToTopId, replyToMsgId) := match header with
      | .header m => (m.forumTopic, m.replyToTopId, m.replyToMsgId)
      | .messageReplyHeader m => (m.forumTopic, m.replyToTopId, m.replyToMsgId)
      | _ => (false, none, none)
    if forumTopic then
      match replyToTopId with
      | some topId => some topId
      | none => replyToMsgId
    else none
  | _ => none

end ReplyTo

namespace Message

/-- `Message::reply_to_message_id` -/
def replyToMessageId (m : Message S) : Option I32 := ReplyTo.replyToMessageId m.raw.replyTo

/-- `Message::is_forum_topic` -/
def isForumTopic (m : Message S) : Bool := ReplyTo.isForumTopic m.raw.replyTo

/-- `Message::topic_id` -/
def topicId (m : Message S) : Option I32 := ReplyTo.topicId m.raw.replyTo

/-- `Message::is_in_topic` -/
def isInTopic (m : Message S) (topicId : I32) : Bool :=
  match m.topicId with
  | some id => id == topicId
  | none => false

/-- `Message::is_in_topics` -/
def isInTopics (m : Message S) (topicIds : List I32) : Bool :=
  match m.topicId with
  | some id => topicIds.contains id
  | none => false

end Message

/-! ## The specification's reply descriptor -/

/-- The specification's `ReplyDescriptor`: what a reply header says about topics, whichever of
the two header shapes it came in. -/
structure ReplyDescriptor where
  forumTopic : Bool
  replyToTopId : Option I32
  replyToMsgId : Option I32
  deriving DecidableEq, Repr

/-- The descriptor of a `reply_to` field.  No header gives no descriptor; a header of another
kind gives one that is present but empty. -/
def descriptor : Option (Tl.Enums.MessageReplyHeader S) → Option ReplyDescriptor
  | none => none
  | some (.header m) => some ⟨m.forumTopic, m.replyToTopId, m.replyToMsgId⟩
  | some (.messageReplyHeader m) => some ⟨m.forumTopic, m.replyToTopId, m.replyToMsgId⟩
  | some (.other _) => some ⟨false, none, none⟩

/-- The specification's topic resolution (§4.2), step by step: no topic without a descriptor or
without `forum_topic`; else `reply_to_top_id`; else `reply_to_msg_id`; and when both are absent,
no topic rather than a made-up one. -/
def resolve : Option ReplyDescriptor → Option I32
  | none => none
  | some d =>
    if !d.forumTopic then none
    else match d.replyToTopId, d.replyToMsgId with
      | some topId, _ => some topId
      | none, some msgId => some msgId
      | none, none => none

example : resolve (some ⟨true, some 42, some 7⟩) = some 42 ∧
    resolve (some ⟨true, none, some 7⟩) = some 7 ∧
    resolve (some ⟨false, some 42, some 7⟩) = none := by decide

namespace ReplyTo

/-- The code's branch on the three fields is the specification's rule. -/
theorem branch_eq_resolve (forumTopic : Bool) (replyToTopId replyToMsgId : Option I32) :
    (if forumTopic then
      match replyToTopId with
      | some topId => some topId
      | none => replyToMsgId
    else none) = resolve (some ⟨forumTopic, replyToTopId, replyToMsgId⟩) := by
  cases forumTopic <;> cases replyToTopId <;> cases replyToMsgId <;> rfl

theorem topicId_eq_resolve (r : Option (Tl.Enums.MessageReplyHeader S)) :
    topicId r = resolve (descriptor r) := by
  rcases r with _ | (m | m | _)
  · rfl
  · exact branch_eq_resolve _ _ _
  · exact branch_eq_resolve _ _ _
  · rfl

theorem isForumTopic_eq_descriptor (r : Option (Tl.Enums.MessageReplyHeader S)) :
    isForumTopic r = (descriptor r).any (·.forumTopic) := by
  rcases r with _ | (_ | _ | _) <;> rfl

theorem replyToMessageId_eq_descriptor (r : Option (Tl.Enums.MessageReplyHeader S)) :
    replyToMessageId r = (descriptor r).bind (·.replyToMsgId) := by
  rcases r with _ | (_ | _ | _) <;> rfl

end ReplyTo

/-- The rule of §4.2 as one formula: a topic only with `forum_topic`, and then the top message
before the message replied to. -/
theorem resolve_eq_if (d : Option ReplyDescriptor) :
    resolve d = if d.any (·.forumTopic) then
      (d.bind (·.replyToTopId)).or (d.bind (·.replyToMsgId)) else none := by
  rcases d with _ | ⟨_ | _, _ | _, _ | _⟩ <;> rfl

theorem isForumTopic_of_resolve_eq_some {d : Option ReplyDescriptor} {t : I32}
    (h : resolve d = some t) : d.any (·.forumTopic) = true := by
  rw [resolve_eq_if] at h
  split at h
  · assumption
  · cases h

namespace Message

/-- **The three readers agree.**  On every message, whatever its header, `topic_id` is the
specification's resolution of the header's descriptor; equivalently it is the header's
`reply_to_top_id`, or failing that `reply_to_message_id`, exactly when `is_forum_topic` holds,
and nothing otherwise. -/
theorem topicId_eq_if_isForumTopic (m : Message S) :
    m.topicId = resolve (descriptor m.raw.replyTo) ∧
    m.topicId = if m.isForumTopic then
      ((descriptor m.raw.replyTo).bind (·.replyToTopId)).or m.replyToMessageId else none := by
  rw [topicId, isForumTopic, replyToMessageId, ReplyTo.topicId_eq_resolve,
    ReplyTo.isForumTopic_eq_descriptor, ReplyTo.replyToMessageId_eq_descriptor, resolve_eq_if]
  exact ⟨rfl, rfl⟩

theorem isForumTopic_of_topicId_eq_some {m : Message S} {t : I32} (h : m.topicId = some t) :
    m.isForumTopic = true := by
  rw [topicId, ReplyTo.topicId_eq_resolve] at h
  rw [isForumTopic, ReplyTo.isForumTopic_eq_descriptor]
  exact isForumTopic_of_resolve_eq_some h

theorem isInTopics_iff (m : Message S) (topicIds : List I32) :
    m.isInTopics topicIds = true ↔ ∃ t, m.topicId = some t ∧ t ∈ topicIds := by
  rw [isInTopics]
  split <;> simp_all

end Message
end Grammers
