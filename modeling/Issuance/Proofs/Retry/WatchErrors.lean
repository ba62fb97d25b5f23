import Mathlib.Algebra.Group.Nat.Defs
import Issuance.Proofs.Text.Letters
import Issuance.Retry.WatchError

namespace Issuance

namespace WatchErrorKind

/-- A text says one of the marks at some place. -/
def Says (text : String) (marks : List String) : Prop :=
  ∃ mark ∈ marks, mark.toList <:+: text.toList

/-- The pauses among some texts are the requests to slow down. -/
def slowdowns (texts : List String) : Nat := texts.countP (ofText · = tooManyRequests)

variable {text : String}

theorem holdsMark_iff {marks : List String} : holdsMark marks text = true ↔ Says text marks := by
  simp only [holdsMark, List.any_eq_true, Says, Text.mentions, Text.occurs_iff]

/-- A refusal says so, and it does not say that something is missing. -/
theorem ofText_eq_unauthorized_iff :
    ofText text = unauthorized ↔ Says text unauthorizedMarks ∧ ¬Says text notFoundMarks := by
  rw [← holdsMark_iff, ← holdsMark_iff]
  unfold ofText
  cases holdsMark unauthorizedMarks text <;> cases holdsMark notFoundMarks text <;>
    split_ifs <;> simp_all

theorem slowdowns_cons {texts : List String} : slowdowns (text :: texts) =
    (if ofText text = tooManyRequests then 1 else 0) + slowdowns texts := by
  rw [slowdowns, List.countP_cons, slowdowns, Nat.add_comm]
  simp

end WatchErrorKind

open WatchErrorKind (slowdowns)

/-- The milliseconds that an error is to wait after some requests to slow down. -/
def pauseAfter (longest initial : UInt64) (requests : Nat) : Nat :=
  if requests = 0 then initial.toNat else min (initial.toNat * 2 ^ requests) longest.toNat

/-- The reaction to a text that comes after some requests to slow down. -/
structure WatchReaction.Answers (longest initial : UInt64) (restartDelay : Span) (requests : Nat)
    (text : String) (reaction : WatchReaction) : Prop where
  kind : reaction.kind = .ofText text
  paused : reaction.kind = .tooManyRequests →
    reaction.sleep.nanoseconds = pauseAfter longest initial requests * 1000000 ∧
      reaction.pause.toNat = min (initial.toNat * 2 ^ (requests + 1)) longest.toNat
  unchanged : reaction.kind ≠ .tooManyRequests →
    reaction.pause.toNat = pauseAfter longest initial requests
  delayed : reaction.kind = .unauthorized ∨ reaction.kind = .other → reaction.sleep = restartDelay
  immediate : reaction.kind = .resourceVersionExpired ∨ reaction.kind = .notFound →
    reaction.sleep = .zero
  kept : reaction.keepsStream = true ↔ reaction.kind = .notFound

section Pauses

variable {longest initial pause : UInt64} {restartDelay : Span} {requests : Nat} {text : String}

/-- A word holds the longest pause, so the saturation of the double never shows. -/
theorem toNat_doubled (met : pause.toNat = pauseAfter longest initial requests) :
    (min (saturatingDouble pause) longest).toNat =
      min (initial.toNat * 2 ^ (requests + 1)) longest.toNat := by
  have fits : longest.toNat ≤ UInt64.size - 1 := by
    have bounded := longest.toNat_lt
    rw [UInt64.size]
    omega
  rw [UInt64.toNat_min, saturatingDouble, saturatingAdd_toNat, met, pauseAfter]
  split
  · next none =>
    subst none
    omega
  · rw [Nat.pow_succ, ← Nat.mul_assoc]
    omega

/-- One reaction answers its text when it meets the pause that the requests so far have left. -/
theorem answers_reactToWatchError (restartDelay : Span) (text : String)
    (met : pause.toNat = pauseAfter longest initial requests) :
    (reactToWatchError longest restartDelay pause text).Answers longest initial restartDelay
      requests text := by
  unfold reactToWatchError
  cases kind : WatchErrorKind.ofText text with
  | tooManyRequests =>
    refine ⟨kind.symm, fun _ => ⟨?_, toNat_doubled met⟩, nofun, by simp, by simp, by simp⟩
    exact congrArg (· * 1000000) met
  | unauthorized => exact ⟨kind.symm, nofun, fun _ => met, fun _ => rfl, by simp, by simp⟩
  | other => exact ⟨kind.symm, nofun, fun _ => met, fun _ => rfl, by simp, by simp⟩
  | resourceVersionExpired =>
    exact ⟨kind.symm, nofun, fun _ => met, by simp, fun _ => rfl, by simp⟩
  | notFound => exact ⟨kind.symm, nofun, fun _ => met, by simp, fun _ => rfl, by simp⟩

/-- The next error meets the pause that one more text has left. -/
theorem WatchReaction.Answers.pause_eq {reaction : WatchReaction}
    (answers : reaction.Answers longest initial restartDelay requests text) :
    reaction.pause.toNat = pauseAfter longest initial
      (requests + if WatchErrorKind.ofText text = .tooManyRequests then 1 else 0) := by
  rw [← answers.kind]
  split
  · next slow => rw [(answers.paused slow).2, pauseAfter, if_neg (Nat.succ_ne_zero _)]
  · next other => exact answers.unchanged other

/-- Whatever comes first, the reaction to a text depends on it by the requests to slow down. -/
theorem exists_answers (restartDelay : Span)
    (met : pause.toNat = pauseAfter longest initial requests) (before : List String)
    (text : String) (after : List String) : ∃ reaction,
      (reactToWatchErrors longest restartDelay pause (before ++ text :: after))[before.length]? =
        some reaction ∧
      reaction.Answers longest initial restartDelay (requests + slowdowns before) text := by
  induction before generalizing pause requests with
  | nil => exact ⟨_, rfl, answers_reactToWatchError restartDelay text met⟩
  | cons first before ih =>
      have left := (answers_reactToWatchError restartDelay first met).pause_eq
      obtain ⟨reaction, found, answers⟩ := ih left
      rw [Nat.add_assoc, ← WatchErrorKind.slowdowns_cons] at answers
      exact ⟨reaction, found, answers⟩

theorem length_reactToWatchErrors (texts : List String) :
    (reactToWatchErrors longest restartDelay pause texts).length = texts.length := by
  induction texts generalizing pause with
  | nil => rfl
  | cons text texts ih => exact congrArg (· + 1) ih

end Pauses

/-- Every text is answered once, and its answer depends on the texts before it by the requests to
slow down alone, each of which doubles the pause up to the longest one. What says that something is
missing is never taken for a refusal. -/
theorem watch_errors_answered (longest initial : UInt64) (restartDelay : Span)
    (texts : List String) :
    (reactToWatchErrors longest restartDelay initial texts).length = texts.length ∧
    (∀ before text after, texts = before ++ text :: after → ∃ reaction,
      (reactToWatchErrors longest restartDelay initial texts)[before.length]? = some reaction ∧
      reaction.Answers longest initial restartDelay (slowdowns before) text) ∧
    ∀ text, WatchErrorKind.Says text WatchErrorKind.notFoundMarks →
      WatchErrorKind.ofText text ≠ .unauthorized := by
  refine ⟨length_reactToWatchErrors texts, ?_, fun text missing refused => ?_⟩
  · rintro before text after rfl
    have met : initial.toNat = pauseAfter longest initial 0 := rfl
    obtain ⟨reaction, found, answers⟩ := exists_answers restartDelay met before text after
    rw [Nat.zero_add] at answers
    exact ⟨reaction, found, answers⟩
  · exact (WatchErrorKind.ofText_eq_unauthorized_iff.mp refused).2 missing

namespace Sample

/-- Requests to slow down with other errors between them. -/
def watchErrors : List String := ["429", "410 Gone", "429", "401 not found"]

end Sample

/-- The second request meets twice the first pause, cut off, and a refusal of what is missing keeps
the stream. -/
theorem sample_pause_cut_off :
    Sample.watchErrors = ["429", "410 Gone"] ++ "429" :: ["401 not found"] ∧
    (∃ reaction, (reactToWatchErrors 1500 .zero 1000 Sample.watchErrors)[2]? = some reaction ∧
      reaction.sleep.nanoseconds = 1500000000 ∧ reaction.pause.toNat = 1500) ∧
    WatchErrorKind.Says "401 not found" WatchErrorKind.notFoundMarks ∧
    WatchErrorKind.ofText "401 not found" ≠ .unauthorized := by
  obtain ⟨_, answered, missing⟩ := watch_errors_answered 1500 1000 .zero Sample.watchErrors
  have marked : WatchErrorKind.Says "401 not found" WatchErrorKind.notFoundMarks :=
    WatchErrorKind.holdsMark_iff.mp (by decide)
  refine ⟨rfl, ?_, marked, missing _ marked⟩
  obtain ⟨reaction, found, answers⟩ := answered ["429", "410 Gone"] "429" ["401 not found"] rfl
  have slow : reaction.kind = .tooManyRequests := answers.kind.trans (by decide)
  obtain ⟨slept, left⟩ := answers.paused slow
  exact ⟨reaction, found, slept.trans (by decide), left.trans (by decide)⟩

end Issuance
