/-
  AccessService.Lib.Replay

  A log of events, each about one record: what the events tell of a record, one after
  another from nothing, and what one event more adds.
-/

import Mathlib.Data.List.Basic

namespace AccessService.Lib

variable {ι κ α : Type} [DecidableEq κ]

/-- What the log tells of the record with the key: the events about it, in order. -/
def replay (about : ι → κ) (tell : ι → Option α → Option α) (key : κ) (events : List ι) :
    Option α :=
  events.foldl (fun record event => if about event = key then tell event record else record) none

variable {about : ι → κ} {tell : ι → Option α → Option α} {key : κ} {events : List ι} {event : ι}

theorem replay_append_about (h : about event = key) :
    replay about tell key (events ++ [event]) = tell event (replay about tell key events) := by
  rw [replay, List.foldl_append]
  exact if_pos h

theorem replay_append_other (h : about event ≠ key) :
    replay about tell key (events ++ [event]) = replay about tell key events := by
  rw [replay, List.foldl_append]
  exact if_neg h

/-- Several events about the record, one after another. -/
theorem replay_append_all {more : List ι} (h : ∀ event ∈ more, about event = key) :
    replay about tell key (events ++ more) =
      more.foldl (fun record event => tell event record) (replay about tell key events) := by
  rw [replay, List.foldl_append]
  exact List.foldl_ext _ _ _ fun record event hmem => if_pos (h event hmem)

/-- Events about other records. -/
theorem replay_append_others {more : List ι} (h : ∀ event ∈ more, about event ≠ key) :
    replay about tell key (events ++ more) = replay about tell key events := by
  rw [replay, List.foldl_append, List.foldl_ext _ (fun record _ => record) _
    fun record event hmem => if_neg (h event hmem)]
  exact List.foldl_fixed _

end AccessService.Lib
