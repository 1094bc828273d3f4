import Titling.Proofs.Message.Latch
import Titling.Title.Session

/-! Tasks one after another: what each of them finds, and what it leaves behind. -/

namespace Titling.Title

open Titling.Message

/-- Tells that there is notice of the deprecated token when a task is carried out. -/
def Task.GivesNotice (task : Task) : Prop :=
  .deprecatedToken ∈ task.perform.2

instance : DecidablePred Task.GivesNotice :=
  fun task => inferInstanceAs (Decidable (.deprecatedToken ∈ task.perform.2))

section Announce

variable {bus : Bus} {latch : Latch} {notices : List Notice}

/-- Without notice of the token nothing is sent or noted. -/
theorem announce_of_not_mem (quiet : .deprecatedToken ∉ notices) :
    announce latch bus notices = (silent, latch) := by
  rw [announce, announceBy, if_neg quiet]

/-- Once the token is noted nothing is sent any more. -/
theorem announce_of_isSet (known : latch.isSet Catalog.deprecatedToken = true) :
    announce latch bus notices = (silent, latch) := by
  -- With notice of it the latch holds the warning back, and without notice nothing is asked of it.
  unfold announce announceBy
  split
  · exact Latch.warn_of_isSet rfl known
  · rfl

/-- The first notice of the token is sent. -/
theorem announce_of_first {sent : List Emission}
    (delivers : bus.send .warning Catalog.deprecatedToken [] = .ok sent)
    (notice : .deprecatedToken ∈ notices)
    (unknown : latch.isSet Catalog.deprecatedToken = false) :
    announce latch bus notices = (.ok (true, sent), (latch.trip Catalog.deprecatedToken).2) := by
  rw [announce, announceBy, if_pos notice]
  exact Latch.warn_of_first rfl unknown delivers

/-- The token is noted after notices if it was before, or if there is notice of it. -/
theorem isSet_announce :
    (announce latch bus notices).2.isSet Catalog.deprecatedToken =
      (latch.isSet Catalog.deprecatedToken || decide (.deprecatedToken ∈ notices)) := by
  unfold announce announceBy
  split
  · rename_i notice
    -- A warning that cannot be sent is noted like any other.
    rw [Latch.warn_snd latch rfl, Latch.isSet_trip]
    simp [notice]
  · rename_i quiet
    simp [quiet]

end Announce

namespace Session

variable {bus : Bus}

/-- The session that tasks leave behind when they are carried out in turn. -/
def after (bus : Bus) (session : Session) (tasks : List Task) : Session :=
  tasks.foldl (fun session task => (session.perform bus task).2) session

/-- The first task is carried out before the others. -/
theorem after_cons (session : Session) (task : Task) (rest : List Task) :
    after bus session (task :: rest) = after bus (session.perform bus task).2 rest := rfl

/-- Each task is carried out in the session that those before it leave behind. -/
theorem getElem?_performAll (session : Session) (tasks : List Task) (place : Nat) :
    (performAll bus session tasks)[place]? = tasks[place]?.map fun task =>
      let done := (after bus session (tasks.take place)).perform bus task
      (done.1, done.2.record) := by
  -- Induct over the tasks; each of them leaves a session for those behind it.
  induction tasks generalizing session place with
  | nil => simp [performAll]
  | cons task rest ih =>
    -- Behind the first task, the others are carried out in the session that it leaves behind.
    cases place with
    | zero => simp [performAll, after]
    | succ place =>
      simp only [performAll, List.getElem?_cons_succ, List.take_succ_cons, after_cons]
      exact ih (session.perform bus task).2 place

/-- A task whose warning is no trouble answers its product, and adds to the record. -/
theorem perform_of_announced {session : Session} {task : Task} {warned : Bool}
    {emitted : List Emission} {latch : Latch}
    (announced : announce session.latch bus task.perform.2 = (.ok (warned, emitted), latch)) :
    session.perform bus task =
      (.ok (task.perform.1, emitted),
        { record := session.record.update task.perform.1.entries, latch }) := by
  simp [perform, announced]

/-- A task whose warning cannot be sent answers why, and leaves the record as it was. -/
theorem perform_of_unsent {session : Session} {task : Task} {error : SendError} {latch : Latch}
    (announced : announce session.latch bus task.perform.2 = (.error error, latch)) :
    session.perform bus task = (.error error, { session with latch }) := by
  simp [perform, announced]

/-- A task without notices answers its product, and adds to the record. -/
theorem perform_of_quiet {task : Task} {product : Product}
    (performed : task.perform = (product, [])) (session : Session) :
    session.perform bus task =
      (.ok (product, []), { session with record := session.record.update product.entries }) := by
  -- Without a notice there is nothing that could be noted.
  have announced : announce session.latch bus task.perform.2 = (silent, session.latch) := by
    rw [performed]
    exact announce_of_not_mem List.not_mem_nil
  rw [perform_of_announced announced, performed]

/-- What is noted after a task is what announcing its notices leaves noted. -/
theorem latch_perform (session : Session) (task : Task) :
    (session.perform bus task).2.latch = (announce session.latch bus task.perform.2).2 := by
  -- The latch is that of the announcement, whether the warning could be sent or not.
  rcases announced : announce session.latch bus task.perform.2 with ⟨_ | ⟨warned, emitted⟩, latch⟩
  · rw [perform_of_unsent announced]
  · rw [perform_of_announced announced]

/-- The token is noted after tasks if it was before, or if one of them gave notice of it. -/
theorem isSet_after (session : Session) (tasks : List Task) :
    (after bus session tasks).latch.isSet Catalog.deprecatedToken =
      (session.latch.isSet Catalog.deprecatedToken ||
        tasks.any fun task => decide task.GivesNotice) := by
  induction tasks generalizing session with
  | nil => simp [after]
  | cons task rest ih =>
    -- What the first task notes is noted before the others, and stays so.
    rw [after_cons, ih, latch_perform, isSet_announce, List.any_cons, Bool.or_assoc]
    rfl

end Session

end Titling.Title
