import Titling.Message.Latch

/-! A latch for warnings: a key that has come up stays noted, and only its first warning is sent. -/

namespace Titling.Message.Latch

/-- Noting a key adds it to those that have come up, and no other one. -/
theorem isSet_trip (latch : Latch) (key other : String) :
    (latch.trip key).2.isSet other = (latch.isSet other || other == key) := by
  unfold trip
  split
  · rename_i known
    -- The key was noted before, so nothing is added.
    by_cases same : other = key
    · subst same
      simp [known]
    · simp [same]
  · -- A new key comes in front of those that are there.
    rw [isSet, List.contains_cons, Bool.or_comm]
    rfl

variable {bus : Bus} {id : String} {arguments : Arguments}

/-- A warning leaves its id noted, whatever comes of the sending. -/
theorem warn_snd (latch : Latch) (accepted : usesName refusedNames arguments = false) :
    (latch.warn bus id arguments).2 = (latch.trip id).2 := by
  -- The id is noted before anything is sent, so the bus has no part in what is noted.
  unfold warn
  rw [accepted]
  rcases tripped : latch.trip id with ⟨first, after⟩
  cases first <;> rfl

/-- A warning whose id has come up is not sent again. -/
theorem warn_of_isSet {latch : Latch} (accepted : usesName refusedNames arguments = false)
    (known : latch.isSet id = true) :
    latch.warn bus id arguments = (.ok (false, []), latch) := by
  simp [warn, accepted, trip, known]

/-- A warning whose id comes up for the first time is sent. -/
theorem warn_of_first {latch : Latch} {sent : List Emission}
    (accepted : usesName refusedNames arguments = false) (unknown : latch.isSet id = false)
    (delivers : bus.send .warning id arguments = .ok sent) :
    latch.warn bus id arguments = (.ok (true, sent), (latch.trip id).2) := by
  simp [warn, accepted, trip, unknown, delivers, Except.map]

end Titling.Message.Latch
