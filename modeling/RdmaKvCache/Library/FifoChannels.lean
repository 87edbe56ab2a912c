import Mathlib.Logic.Relation

/-!
# Channels that keep the order

Messages leave a channel in the order in which they are sent on it, none is lost
and none comes twice.  A channel can go from one state to another exactly if more
may have been received and more may have been sent.
-/

namespace FifoChannels

universe u

variable {μ : Type u}

/-- What has left the channel and what is still in it. -/
structure Channel (μ : Type u) where
  received : List μ := []
  pending : List μ := []

inductive Step : Channel μ → Channel μ → Prop where
  | send (channel : Channel μ) (message : μ) :
      Step channel { channel with pending := channel.pending ++ [message] }
  | receive (received : List μ) (message : μ) (rest : List μ) :
      Step ⟨received, message :: rest⟩ ⟨received ++ [message], rest⟩

/-- The steps from one state to another. -/
abbrev Steps : Channel μ → Channel μ → Prop :=
  Relation.ReflTransGen Step

namespace Channel

variable {channel next : Channel μ}

def sent (channel : Channel μ) : List μ :=
  channel.received ++ channel.pending

/-- The later state of a channel has the same beginnings. -/
structure Extends (next channel : Channel μ) : Prop where
  received : channel.received <+: next.received
  sent : channel.sent <+: next.sent

theorem Extends.refl (channel : Channel μ) : channel.Extends channel where
  received := List.prefix_refl _
  sent := List.prefix_refl _

theorem Extends.of_step
    {first : Channel μ} (earlier : channel.Extends first)
    (taken : Step channel next) :
    next.Extends first := by
  cases taken with
  | send _ message =>
      refine ⟨earlier.received, earlier.sent.trans ?_⟩
      unfold Channel.sent
      rw [← List.append_assoc]
      exact List.prefix_append _ _
  | receive received message rest =>
      constructor
      · exact earlier.received.trans (List.prefix_append _ _)
      · have same :
            (⟨received ++ [message], rest⟩ : Channel μ).sent =
              (⟨received, message :: rest⟩ : Channel μ).sent := by
          simp [Channel.sent]
        rw [same]
        exact earlier.sent

theorem steps_send (channel : Channel μ) (messages : List μ) :
    Steps channel { channel with pending := channel.pending ++ messages } := by
  induction messages generalizing channel with
  | nil =>
      rw [List.append_nil]
  | cons message rest inductionHypothesis =>
      have later :=
        inductionHypothesis
          { channel with pending := channel.pending ++ [message] }
      rw [List.append_assoc] at later
      exact .head (.send channel message) later

theorem steps_receive (received messages rest : List μ) :
    Steps ⟨received, messages ++ rest⟩ ⟨received ++ messages, rest⟩ := by
  induction messages generalizing received with
  | nil =>
      rw [List.append_nil]
      exact .refl
  | cons message others inductionHypothesis =>
      have later := inductionHypothesis (received ++ [message])
      rw [List.append_assoc] at later
      exact .head (.receive received message (others ++ rest)) later

/-- A channel gets anywhere where the messages are the same ones in the same
order. -/
theorem steps_iff_extends : Steps channel next ↔ next.Extends channel := by
  constructor
  · intro steps
    induction steps with
    | refl =>
        exact .refl channel
    | tail _ taken earlier =>
        exact earlier.of_step taken
  · rintro ⟨⟨newReceived, received⟩, newSent, sent⟩
    obtain ⟨before, pending⟩ := channel
    obtain ⟨after, remaining⟩ := next
    dsimp only at received
    subst received
    have stillThere : pending ++ newSent = newReceived ++ remaining := by
      simpa only [Channel.sent, List.append_assoc, List.append_cancel_left_eq]
        using sent
    refine (steps_send _ newSent).trans ?_
    rw [stillThere]
    exact steps_receive before newReceived remaining

end Channel

end FifoChannels
