import Titling.Message.Pointer
import Titling.Proofs.Message.Bus
import Titling.Proofs.Message.Latch

/-!
Calls on a latch in any order: of those on one key only the first can warn, even if it fails.

What a call answers depends on nothing but whether a call before it has noted its key.
-/

namespace Titling.Message.Latch

/-- A call whose id is given as an address or as a text. -/
inductive Request where
  | isSet (id : Id)
  | trip (id : Id)
  | warn (id : Id) (arguments : Arguments)

/-- The call that a request makes; of its id only the text counts. -/
def Request.call : Request → Call
  | .isSet id => .isSet id.toText
  | .trip id => .trip id.toText
  | .warn id arguments => .warn id.toText arguments

namespace Call

/-- The key that a call is about. -/
def key : Call → String
  | .isSet key => key
  | .trip key => key
  | .warn id _ => id

/-- Tells whether a call notes its key; a look at a key leaves it as it was. -/
def notes : Call → Bool
  | .isSet _ => false
  | .trip _ => true
  | .warn .. => true

/-- Tells that no value of a warning has a name that the warning refuses at once. -/
def IsAccepted : Call → Prop
  | .warn _ arguments => usesName refusedNames arguments = false
  | _ => True

/-- What a call answers, by whether its key has come up before. -/
def answer (bus : Bus) (known : Bool) : Call → Answer
  | .isSet _ => .flag known
  | .trip _ => .flag !known
  | .warn id arguments =>
    .warning (if known then .ok (false, [])
      else (bus.send .warning id arguments).map fun sent => (true, sent))

end Call

namespace Answer

/-- What the renderer did in a call. -/
def emissions : Answer → List Emission
  | .flag _ => []
  | .warning (.ok (_, emissions)) => emissions
  | .warning (.error _) => []

/-- Tells whether a call answers with the value for yes. -/
def isTrue : Answer → Bool
  | .flag value => value
  | .warning (.ok (first, _)) => first
  | .warning (.error _) => false

/-- Tells whether a warning is sent in a call. -/
def sends (answer : Answer) : Bool :=
  !answer.emissions.isEmpty

/-- Tells that a call fails. -/
def Fails (answer : Answer) : Prop :=
  ∃ error, answer = .warning (.error error)

end Answer

/-- Tells that a call in front of a place notes a key. -/
def CameUp (calls : List Call) (place : Nat) (key : String) : Prop :=
  ∃ call ∈ calls.take place, call.notes = true ∧ call.key = key

/-- Calls in turn, each with its answer. -/
def transcript (bus : Bus) (latch : Latch) (calls : List Call) : List (Call × Answer) :=
  calls.zip (performAll bus latch calls)

section Step

variable {bus : Bus} {call : Call}

/-- A call answers by whether its key has come up. -/
theorem perform_fst (latch : Latch) (accepted : call.IsAccepted) :
    (latch.perform bus call).1 = call.answer bus (latch.isSet call.key) := by
  -- A look and a note answer at once; a warning is sent only for a key that is new.
  cases call with
  | isSet key => rfl
  | trip key =>
    cases known : latch.isSet key <;> simp [perform, trip, Call.answer, Call.key, known]
  | warn id arguments =>
    have allowed : usesName refusedNames arguments = false := accepted
    cases known : latch.isSet id with
    | true => simp [perform, warn_of_isSet allowed known, Call.answer, Call.key, known]
    | false => simp [perform, warn, allowed, trip, known, Call.answer, Call.key]

/-- After a call a key has come up if it had before, or if the call notes it. -/
theorem isSet_perform (latch : Latch) (accepted : call.IsAccepted) (key : String) :
    (latch.perform bus call).2.isSet key =
      (latch.isSet key || (call.notes && call.key == key)) := by
  -- A look notes nothing, and both other calls trip the latch.
  cases call with
  | isSet asked => simp [perform, Call.notes]
  | trip noted =>
    have after := isSet_trip latch noted key
    simpa [perform, Call.notes, Call.key, Bool.beq_comm] using after
  | warn id arguments =>
    -- The id is noted before the sending, so whether that fails makes no difference.
    have after : (latch.warn bus id arguments).2.isSet key = (latch.isSet key || key == id) := by
      rw [warn_snd latch accepted, isSet_trip]
    simpa [perform, Call.notes, Call.key, Bool.beq_comm] using after

/-- A call that notes a key which has come up before does not answer yes. -/
theorem isTrue_answer_of_known (notes : call.notes = true) :
    (call.answer bus true).isTrue = false := by
  -- A look notes no key; a note and a warning say no to one that is known.
  cases call with
  | isSet key => cases notes
  | trip key => rfl
  | warn id arguments => rfl

end Step

section Run

variable {bus : Bus}

/-- Each call answers by whether its key came up in the beginning or in a call before it. -/
theorem getElem?_performAll (latch : Latch) {calls : List Call}
    (accepted : ∀ call ∈ calls, call.IsAccepted) (place : Nat) :
    (performAll bus latch calls)[place]? = calls[place]?.map fun call =>
      call.answer bus (latch.isSet call.key ||
        (calls.take place).any fun earlier => earlier.notes && earlier.key == call.key) := by
  -- Induct over the calls: those behind the first one run on the latch that it leaves.
  induction calls generalizing latch place with
  | nil => simp [performAll]
  | cons call rest ih =>
    obtain ⟨first, later⟩ := List.forall_mem_cons.mp accepted
    cases place with
    | zero => simp [performAll, perform_fst latch first]
    | succ place =>
      -- What the first call notes counts for all those behind it.
      simp only [performAll, List.getElem?_cons_succ, List.take_succ_cons, List.any_cons]
      rw [ih _ later]
      simp only [isSet_perform latch first, Bool.or_assoc]

/-- The calls on one key are answered as if there were no others. -/
theorem filter_transcript {latch alone : Latch} {calls : List Call}
    (accepted : ∀ call ∈ calls, call.IsAccepted) {key : String}
    (alike : latch.isSet key = alone.isSet key) :
    (transcript bus latch calls).filter (fun done => done.1.key == key) =
      transcript bus alone (calls.filter fun call => call.key == key) := by
  induction calls generalizing latch alone with
  | nil => rfl
  | cons call rest ih =>
    obtain ⟨first, later⟩ := List.forall_mem_cons.mp accepted
    have next : transcript bus latch (call :: rest) =
        (call, (latch.perform bus call).1) :: transcript bus (latch.perform bus call).2 rest := rfl
    rw [next]
    by_cases own : call.key = key
    · -- On its own key the call finds the same in both latches, and leaves the same.
      subst own
      have still : (latch.perform bus call).2.isSet call.key =
          (alone.perform bus call).2.isSet call.key := by
        rw [isSet_perform latch first, isSet_perform alone first, alike]
      rw [List.filter_cons_of_pos (by simp), List.filter_cons_of_pos (by simp), ih later still,
        perform_fst latch first, alike, ← perform_fst alone first]
      rfl
    · -- A call on another key notes nothing that matters here.
      have still : (latch.perform bus call).2.isSet key = alone.isSet key := by
        rw [isSet_perform latch first, alike]
        simp [own]
      rw [List.filter_cons_of_neg (by simpa using own),
        List.filter_cons_of_neg (by simpa using own), ih later still]

/-- Of the calls that note a key at most one answers yes, and none if it came up before them. -/
theorem countP_isTrue_le (latch : Latch) {calls : List Call}
    (accepted : ∀ call ∈ calls, call.IsAccepted) (key : String) :
    (transcript bus latch calls).countP
        (fun done => done.1.notes && done.1.key == key && done.2.isTrue) ≤
      if latch.isSet key then 0 else 1 := by
  -- Induct over the calls: once the key is noted, none of those behind says yes.
  induction calls generalizing latch with
  | nil => simp [transcript]
  | cons call rest ih =>
    obtain ⟨first, later⟩ := List.forall_mem_cons.mp accepted
    have others := ih (latch.perform bus call).2 later
    rw [isSet_perform latch first] at others
    simp only [transcript, performAll, List.zip_cons_cons, List.countP_cons,
      perform_fst latch first] at others ⊢
    cases own : call.notes && call.key == key with
    | false => simpa [own] using others
    | true =>
      -- A call that notes the key leaves nothing to those behind it, and has nothing if it is late.
      rw [own, Bool.or_true, if_pos rfl, Nat.le_zero] at others
      rw [others, Bool.true_and, Nat.zero_add]
      obtain ⟨notes, same⟩ := Bool.and_eq_true_iff.mp own
      rw [← eq_of_beq same]
      cases known : latch.isSet call.key with
      | true => simp [isTrue_answer_of_known notes]
      | false => split <;> simp

/-- Each answer of a transcript is that for a key that came up before, or for one that did not. -/
theorem exists_answer_of_mem {latch : Latch} {calls : List Call}
    (accepted : ∀ call ∈ calls, call.IsAccepted) {done : Call × Answer}
    (inside : done ∈ transcript bus latch calls) : ∃ known, done.2 = done.1.answer bus known := by
  -- The call and its answer stand at one place, where the answer is known by what came before.
  obtain ⟨place, here⟩ := List.mem_iff_getElem?.mp inside
  obtain ⟨asked, answered⟩ := List.getElem?_zip_eq_some.mp here
  rw [getElem?_performAll latch accepted, asked] at answered
  exact ⟨_, (Option.some.inj answered).symm⟩

end Run

section Renderer

variable {bus : Bus} {renderer : Renderer}

/-- A first warning is the message that the bus makes, handed to the renderer. -/
theorem answer_warn_of_first (installed : bus.renderer = some renderer) (id : String)
    (arguments : Arguments) :
    (Call.warn id arguments).answer bus false =
      .warning ((bus.message id arguments).map fun message =>
        (true, renderer.render .warning message)) := by
  -- With a renderer nothing but the message can be missing.
  rw [Call.answer, if_neg Bool.false_ne_true, Bus.send_of_renderer installed]
  cases bus.message id arguments <;> rfl

/-- A warning is sent if its key has not come up before and the bus makes its message. -/
theorem sends_warn_iff (installed : bus.renderer = some renderer) (known : Bool) (id : String)
    (arguments : Arguments) :
    ((Call.warn id arguments).answer bus known).sends = true ↔
      ¬ known = true ∧ ∃ message, bus.message id arguments = .ok message := by
  -- What is known is not sent, and what is new is sent if there is a message.
  cases known with
  | true => simp [Call.answer, Answer.sends, Answer.emissions]
  | false =>
    rw [answer_warn_of_first installed]
    cases bus.message id arguments with
    | error error => simp [Except.map, Answer.sends, Answer.emissions]
    | ok message =>
      obtain ⟨emission, rendered⟩ := exists_render_warning renderer message
      simp [Except.map, Answer.sends, Answer.emissions, rendered]

/-- What is sent in a warning is the message that the bus makes, handed to the renderer. -/
theorem emissions_warn (installed : bus.renderer = some renderer) {known : Bool} {id : String}
    {arguments : Arguments} {message : String}
    (sent : ((Call.warn id arguments).answer bus known).sends = true)
    (made : bus.message id arguments = .ok message) :
    ((Call.warn id arguments).answer bus known).emissions = renderer.render .warning message := by
  -- Since it is sent, its key was new.
  obtain ⟨first, -⟩ := (sends_warn_iff installed known id arguments).mp sent
  rw [Bool.not_eq_true] at first
  rw [first, answer_warn_of_first installed, made]
  rfl

/-- A warning answers yes exactly if it is sent. -/
theorem isTrue_warn (installed : bus.renderer = some renderer) (known : Bool) (id : String)
    (arguments : Arguments) :
    ((Call.warn id arguments).answer bus known).isTrue =
      ((Call.warn id arguments).answer bus known).sends := by
  -- A message that is made is handed on, as every renderer takes warnings.
  cases known with
  | true => rfl
  | false =>
    rw [answer_warn_of_first installed]
    cases bus.message id arguments with
    | error error => rfl
    | ok message =>
      obtain ⟨emission, rendered⟩ := exists_render_warning renderer message
      simp [Except.map, Answer.sends, Answer.emissions, Answer.isTrue, rendered]

/-- A warning fails if its key has not come up before and the bus makes no message. -/
theorem fails_warn_iff (installed : bus.renderer = some renderer) (known : Bool) (id : String)
    (arguments : Arguments) :
    ((Call.warn id arguments).answer bus known).Fails ↔
      ¬ known = true ∧ ∃ error, bus.message id arguments = .error error := by
  -- A warning for a known key is over before its message is made.
  cases known with
  | true => simp [Call.answer, Answer.Fails]
  | false =>
    rw [answer_warn_of_first installed]
    cases bus.message id arguments <;> simp [Except.map, Answer.Fails]

/-- Of the calls on a key at most one sends a warning, as only one that answers yes does. -/
theorem countP_sends_le (installed : bus.renderer = some renderer) (latch : Latch)
    {calls : List Call} (accepted : ∀ call ∈ calls, call.IsAccepted) (key : String) :
    (transcript bus latch calls).countP (fun done => done.1.key == key && done.2.sends) ≤ 1 := by
  -- Each call that sends is one that answers yes, and of those there is at most one.
  have yes := @countP_isTrue_le bus latch calls accepted key
  refine Nat.le_trans (List.countP_mono_left fun done inside loud => ?_)
    (Nat.le_trans yes (by split <;> simp))
  obtain ⟨known, same⟩ := exists_answer_of_mem accepted inside
  obtain ⟨own, sent⟩ := Bool.and_eq_true_iff.mp loud
  rw [same] at sent ⊢
  rw [own, Bool.and_true]
  -- Looks and notes have nothing to send.
  cases asked : done.1 with
  | isSet key => simp [asked, Call.answer, Answer.sends, Answer.emissions] at sent
  | trip key => simp [asked, Call.answer, Answer.sends, Answer.emissions] at sent
  | warn id arguments =>
    rw [asked] at sent
    rw [isTrue_warn installed, sent]
    rfl

/--
Calls on a new latch in any order, with ids in either form, on a bus that has a renderer.

A key has come up where a call before has noted it. A warning is sent, and answers yes, where its
key has not come up and the bus makes the message; it fails only where its key has not come up. So
of the calls on a key at most one sends a warning, and of those that note it at most one answers
yes, also if the first one fails. The calls on one key are answered as if there were no others.
-/
theorem one_warning_per_key (installed : bus.renderer = some renderer) {requests : List Request}
    (accepted : ∀ request ∈ requests, request.call.IsAccepted) :
    let calls := requests.map Request.call
    let answers := performAll bus {} calls
    (∀ place id, requests[place]? = some (.isSet id) →
      ∃ known, answers[place]? = some (.flag known) ∧
        (known = true ↔ CameUp calls place id.toText)) ∧
    (∀ place id, requests[place]? = some (.trip id) →
      ∃ first, answers[place]? = some (.flag first) ∧
        (first = true ↔ ¬ CameUp calls place id.toText)) ∧
    (∀ place id arguments, requests[place]? = some (.warn id arguments) →
      ∃ answer, answers[place]? = some answer ∧
        (answer.sends = true ↔ ¬ CameUp calls place id.toText ∧
          ∃ message, bus.message id.toText arguments = .ok message) ∧
        (∀ message, answer.sends = true → bus.message id.toText arguments = .ok message →
          answer.emissions = renderer.render .warning message) ∧
        (answer.isTrue = true ↔ answer.sends = true) ∧
        (answer.Fails ↔ ¬ CameUp calls place id.toText ∧
          ∃ error, bus.message id.toText arguments = .error error)) ∧
    (∀ id arguments, (∃ error, bus.message id arguments = .error error) ↔
      usesName reservedNames arguments = true ∨ (∃ error, bus.find id = .error error) ∨
        ∃ template fault, bus.find id = .ok template ∧
          format template arguments = .error fault ∧ fault.isNoted = false) ∧
    (∀ key,
      (transcript bus {} calls).countP (fun done => done.1.key == key && done.2.sends) ≤ 1 ∧
      (transcript bus {} calls).countP
        (fun done => done.1.notes && done.1.key == key && done.2.isTrue) ≤ 1 ∧
      (transcript bus {} calls).filter (fun done => done.1.key == key) =
        transcript bus {} (calls.filter fun call => call.key == key)) := by
  intro calls answers
  have allowed : ∀ call ∈ calls, call.IsAccepted := by
    intro call inside
    obtain ⟨request, asked, rfl⟩ := List.mem_map.mp inside
    exact accepted request asked
  -- In a new latch no key has come up, so only the calls in front of a place count.
  have answered : ∀ place (request : Request), requests[place]? = some request →
      ∃ known, answers[place]? = some (request.call.answer bus known) ∧
        (known = true ↔ CameUp calls place request.call.key) := by
    intro place request here
    have called : calls[place]? = some request.call := by
      rw [List.getElem?_map, here, Option.map_some]
    refine ⟨_, by rw [getElem?_performAll {} allowed, called, Option.map_some], ?_⟩
    simp [isSet, CameUp]
  refine ⟨fun place id here => ?_, fun place id here => ?_, fun place id arguments here => ?_,
    bus.exists_message_error_iff, fun key => ⟨countP_sends_le installed {} allowed key,
    countP_isTrue_le {} allowed key, filter_transcript allowed rfl⟩⟩
  · -- A look answers what is known.
    exact answered place _ here
  · -- A note answers the opposite.
    obtain ⟨known, given, cameUp⟩ : ∃ known, answers[place]? = some (.flag !known) ∧
        (known = true ↔ CameUp calls place id.toText) := answered place _ here
    exact ⟨!known, given, by rw [← cameUp, Bool.not_eq_true', Bool.not_eq_true]⟩
  · -- A warning is sent, and fails, by what is known and by the message.
    obtain ⟨known, given, cameUp⟩ : ∃ known,
        answers[place]? = some ((Call.warn id.toText arguments).answer bus known) ∧
        (known = true ↔ CameUp calls place id.toText) := answered place _ here
    rw [← cameUp]
    exact ⟨_, given, sends_warn_iff installed known id.toText arguments,
      fun message => emissions_warn installed,
      by rw [isTrue_warn installed],
      fails_warn_iff installed known id.toText arguments⟩

end Renderer

/-- A bus whose only template asks its value for what no text has. -/
def askingBus : Bus where
  renderer := some .collecting
  find := fun _ => .ok "\x7bvalue.missing\x7d"

/-- A warning whose message cannot be made, a look at its key, that warning again, another key. -/
def askingRequests : List Request :=
  [.warn (.pointer ⟨"old.token"⟩) [("value", .text "a")], .isSet (.text "old.token"),
   .warn (.text "old.token") [], .trip (.text "other")]

/--
Behind a warning that fails the same warning is not sent, although its message could be made now.

The id is an address at first and a text then, and its key counts as noted by the failure.
-/
theorem one_warning_per_key_behind_failure :
    askingBus.renderer = some .collecting ∧
    (∀ request ∈ askingRequests, request.call.IsAccepted) ∧
    let answers := performAll askingBus {} (askingRequests.map Request.call)
    (∃ answer, answers[0]? = some answer ∧ answer.Fails) ∧
    answers[1]? = some (.flag true) ∧
    (∃ message, askingBus.message "old.token" [] = .ok message) ∧
    (∃ answer, answers[2]? = some answer ∧ answer.sends = false ∧ answer.isTrue = false) ∧
    answers[3]? = some (.flag true) := by
  have installed : askingBus.renderer = some .collecting := rfl
  have accepted : ∀ request ∈ askingRequests, request.call.IsAccepted := by
    simp [askingRequests, Request.call, Call.IsAccepted, usesName, refusedNames]
  obtain ⟨looks, notes, warnings, -, -⟩ := one_warning_per_key installed accepted
  -- A text has no attribute of that name; without a value the template is only noted as faulty.
  have unmade : askingBus.message "old.token" [("value", .text "a")] =
      .error (.fault .noAttribute) := rfl
  have made : askingBus.message "old.token" [] = .ok (formattingNote "old.token") := rfl
  obtain ⟨first, firstly, -, -, -, fails⟩ := warnings 0 _ _ rfl
  obtain ⟨known, secondly, isKnown⟩ := looks 1 _ rfl
  obtain ⟨third, thirdly, sends, -, isTrue, -⟩ := warnings 2 _ _ rfl
  obtain ⟨fresh, fourthly, isFresh⟩ := notes 3 _ rfl
  -- The first call is the only one on its key that finds it unnoted.
  have noted : ∀ place, CameUp (askingRequests.map Request.call) (place + 1) "old.token" :=
    fun place => ⟨_, List.mem_cons_self, rfl, rfl⟩
  have quiet : third.sends = false := by
    rw [← Bool.not_eq_true, sends]
    exact fun both => both.1 (noted 1)
  refine ⟨installed, accepted, ⟨first, firstly, fails.mpr ⟨?_, _, unmade⟩⟩, ?_, ⟨_, made⟩,
    ⟨third, thirdly, quiet, ?_⟩, ?_⟩
  · simp [CameUp]
  · rw [secondly, isKnown.mpr (noted 0)]
  · rw [← Bool.not_eq_true, isTrue, quiet]
    exact Bool.false_ne_true
  · rw [fourthly, isFresh.mpr]
    simp [CameUp, askingRequests, Request.call, Call.key, Id.toText]

end Titling.Message.Latch
