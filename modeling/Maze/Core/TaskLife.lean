import Maze.Core.AttemptGate

namespace Maze.Core.AttemptGate

open Maze.Python

/-!
# The life of a task at the gate

The messages about a task may come in any order, more than once, late, or
malformed. The gate lets a part of them through, and that part tells one life of
the task: attempt after attempt, each under one dispatch and lease, started and
retried at most once, until one event ends it.

The gate remembers only the last message of a task. The invariant says what that
record tells of all the messages before it.
-/

/-- A scheduler message about an attempt; nothing about its data is assumed. -/
structure Message where
  messageType : MessageType
  data : PyDict

namespace Message

/-- The identity of the attempt, where the message carries a valid one. -/
def identity? (message : Message) : Option AttemptIdentity :=
  (taskAttemptIdentity? message.data).map Prod.snd

/-- The message names the task. -/
def concerns
    (key : TaskKey)
    (message : Message) :
    Bool :=
  message.data.get "workflow_id" = .str key.1 &&
    message.data.get "task_id" = .str key.2

/-- The message ends its task: it is a finish or an exception. -/
def ends (message : Message) : Bool :=
  nextState message.messageType = .terminal

/-- The message tells of a failure before any attempt. -/
def isPreDispatch (message : Message) : Bool :=
  message.messageType = .taskException &&
    message.data.get "pre_dispatch" = .bool true

/-- The message has the type, and is about the attempt of the identity. -/
def isOf
    (messageType : MessageType)
    (identity : AttemptIdentity)
    (message : Message) :
    Bool :=
  message.messageType = messageType && message.identity? = some identity

/-- The message is about the attempt with the number. -/
def hasAttempt
    (attempt : Int)
    (message : Message) :
    Bool :=
  message.identity?.any fun identity => identity.attempt = attempt

/-- The message refuses a task that no node has the capacity for. -/
def refusesCapacity (message : Message) : Bool :=
  message.messageType = .taskException &&
    message.data.get "capacity_rejection" = .bool true &&
    (match ((message.data.get "error").orElse (.dict [])).get "error_type" with
      | .ok errorType => errorType.pyEq (.str "resource_capacity_exceeded")
      | .error _ => false)

end Message

/-- The messages that the gate lets through; one that raises is not let through. -/
def accepted : Gate → List Message → List Message
  | _, [] => []
  | gate, message :: rest =>
      match acceptTaskAttemptEvent message.messageType message.data gate with
      | .ok (some after) => message :: accepted after rest
      | _ => accepted gate rest

/-- The messages about a task that the gate of a new Core lets through. -/
def life
    (key : TaskKey)
    (messages : List Message) :
    List Message :=
  (accepted Gate.empty messages).filter (Message.concerns key)

/-- One life of a task. -/
structure LinearLife (life : List Message) : Prop where
  oneEnd : (life.filter Message.ends).length ≤ 1
  endsLast :
    ∀ leading message rest, life = leading ++ message :: rest →
      message.ends = true → rest = []
  identified :
    ∀ message ∈ life, message.identity?.isSome = true ∨ life = [message] ∧
      message.isPreDispatch = true
  rejectedAlone :
    ∀ message ∈ life, message.isPreDispatch = true → life = [message]
  ascending :
    life.Pairwise fun earlier later =>
      ∀ first second, earlier.identity? = some first →
        later.identity? = some second → first.attempt ≤ second.attempt
  oneIdentity :
    ∀ earlier ∈ life, ∀ later ∈ life, ∀ first second,
      earlier.identity? = some first → later.identity? = some second →
        first.attempt = second.attempt → first = second
  oneStart :
    ∀ identity, (life.filter (Message.isOf .startTask identity)).length ≤ 1
  oneRetry :
    ∀ identity, (life.filter (Message.isOf .taskRetry identity)).length ≤ 1
  afterRetry :
    ∀ leading message rest identity, life = leading ++ message :: rest →
      message.isOf .taskRetry identity = true →
        (rest.filter (Message.hasAttempt identity.attempt)).length ≤ 1 ∧
          ∀ later ∈ rest, later.hasAttempt identity.attempt = true →
            later.refusesCapacity = true

/-! ## What may follow a message -/

/-- A message may be let through after an earlier one of its task. -/
structure Follows (earlier later : Message) : Prop where
  goesOn : earlier.ends = false
  identified : ∃ first, earlier.identity? = some first
  attempt : ∃ second, later.identity? = some second
  ascending :
    ∀ first second, earlier.identity? = some first →
      later.identity? = some second → first.attempt ≤ second.attempt
  sameIdentity :
    ∀ first second, earlier.identity? = some first →
      later.identity? = some second → first.attempt = second.attempt →
        first = second
  notStarted :
    ∀ first, earlier.identity? = some first → later.identity? = some first →
      later.messageType ≠ .startTask
  afterRetry :
    ∀ first, earlier.identity? = some first → later.identity? = some first →
      earlier.messageType = .taskRetry → later.refusesCapacity = true

/-- What the record of a task tells of a message that came before. -/
structure Remembers
    (record : TaskAttempt)
    (message : Message) : Prop where
  goesOn : record.state ≠ .terminal → message.ends = false
  identified :
    ∃ identity, message.identity? = some identity ∧
      identity.attempt ≤ record.identity.attempt ∧
      (identity.attempt = record.identity.attempt → identity = record.identity) ∧
      (identity = record.identity → message.messageType = .taskRetry →
        record.state ≠ .running)

/-- What the gate knows of a task whose accepted messages are given. -/
structure Tracks
    (gate : Gate)
    (key : TaskKey)
    (life : List Message) : Prop where
  follows : life.Pairwise Follows
  remembered :
    gate.preDispatchRejections key = false →
      ∀ message ∈ life,
        ∃ record, gate.taskAttempts key = some record ∧ Remembers record message
  rejected :
    gate.preDispatchRejections key = true →
      gate.taskAttempts key = none ∧
        ∃ message, life = [message] ∧ message.isPreDispatch = true
  dispatched :
    ∀ message ∈ life, message.isPreDispatch = true →
      gate.preDispatchRejections key = true

/-- A message that carries an attempt is no failure before dispatch. -/
theorem AdmittedAttempt.identity?
    {message : Message}
    {gate : Gate}
    {key : TaskKey}
    {record : TaskAttempt}
    (admitted :
      AdmittedAttempt message.messageType message.data gate key record) :
    message.identity? = some record.identity := by
  simp [Message.identity?, admitted.parsed]

theorem AdmittedAttempt.concerns
    {message : Message}
    {gate : Gate}
    {key other : TaskKey}
    {record : TaskAttempt}
    (admitted :
      AdmittedAttempt message.messageType message.data gate key record) :
    message.concerns other = true ↔ other = key := by
  obtain ⟨workflow, task, _⟩ := taskAttemptIdentity?_eq_some admitted.parsed
  simp only [Message.concerns, workflow, task, Bool.and_eq_true,
    decide_eq_true_eq, PyVal.str.injEq]
  constructor
  · rintro ⟨same, sameTask⟩
    exact Prod.ext same.symm sameTask.symm
  · rintro rfl
    exact ⟨rfl, rfl⟩

theorem RejectedBeforeDispatch.concerns
    {message : Message}
    {gate : Gate}
    {key other : TaskKey}
    (rejected :
      RejectedBeforeDispatch message.messageType message.data gate key) :
    message.concerns other = true ↔ other = key := by
  simp only [Message.concerns, rejected.workflow, rejected.task,
    Bool.and_eq_true, decide_eq_true_eq, PyVal.str.injEq]
  constructor
  · rintro ⟨same, sameTask⟩
    exact Prod.ext same.symm sameTask.symm
  · rintro rfl
    exact ⟨rfl, rfl⟩

/-! ## What the gate admits follows -/

/-- What the record of a task admits. -/
structure AdmittedBy
    (record : TaskAttempt)
    (identity : AttemptIdentity)
    (message : Message) : Prop where
  ascending : record.identity.attempt ≤ identity.attempt
  sameIdentity :
    record.identity.attempt = identity.attempt → record.identity = identity
  again :
    record.identity = identity →
      (record.state = .running ∧ message.messageType ≠ .startTask) ∨
        (record.state = .retrying ∧ message.refusesCapacity = true)

theorem refusesCapacity_of_accepted
    {message : Message}
    {record : TaskAttempt}
    (capacity :
      isCapacityRejection message.messageType message.data record = .ok true) :
    record.state = .retrying ∧ message.refusesCapacity = true := by
  unfold isCapacityRejection at capacity
  split at capacity
  · next marked =>
    simp only [Bool.and_eq_true, decide_eq_true_eq] at marked
    obtain ⟨⟨retrying, failure⟩, flagged⟩ := marked
    obtain ⟨errorType, found, same⟩ := bind_eq_ok.mp capacity
    simp only [pure, Except.pure, Except.ok.injEq] at same
    refine ⟨retrying, ?_⟩
    simp [Message.refusesCapacity, failure, flagged, found, same]
  · cases capacity

theorem admittedBy_of_admits
    {message : Message}
    {identity : AttemptIdentity}
    {record : TaskAttempt}
    (admitted :
      admits message.messageType message.data identity record = .ok true) :
    AdmittedBy record identity message := by
  unfold admits at admitted
  split at admitted
  · cases admitted
  · next orderly =>
    simp only [Bool.or_eq_true, Bool.and_eq_true, decide_eq_true_eq,
      ne_eq, decide_not, Bool.not_eq_true', decide_eq_false_iff_not,
      not_or, not_and, not_not, Int.not_lt] at orderly
    refine ⟨orderly.1, fun same => (orderly.2 same.symm).symm, ?_⟩
    rintro rfl
    split at admitted
    · exact Or.inr (refusesCapacity_of_accepted admitted)
    · next open_ =>
      simp only [decide_true, Bool.true_and, Bool.or_eq_true,
        decide_eq_true_eq, not_or, not_not, ne_eq, decide_not,
        Bool.not_eq_true', decide_eq_false_iff_not] at open_
      exact Or.inl open_

/-- A message that the gate lets through, by the branch that it takes. -/
theorem accept_branches
    {message : Message}
    {gate after : Gate}
    (accepted :
      acceptTaskAttemptEvent message.messageType message.data gate =
        .ok (some after)) :
    (message.isPreDispatch = true ∧
      ∃ key,
        RejectedBeforeDispatch message.messageType message.data gate key ∧
          after = gate.reject key) ∨
    (message.isPreDispatch = false ∧
      ∃ key record,
        AdmittedAttempt message.messageType message.data gate key record ∧
          after = gate.remember key record) := by
  cases preDispatch : message.isPreDispatch with
  | true =>
      simp only [Message.isPreDispatch, Bool.and_eq_true,
        decide_eq_true_eq] at preDispatch
      obtain ⟨failure, marked⟩ := preDispatch
      rw [failure] at accepted ⊢
      simp only [acceptTaskAttemptEvent, marked, and_self, if_true, pure,
        Except.pure, Except.ok.injEq] at accepted
      exact Or.inl ⟨rfl, acceptPreDispatch_eq_some marked accepted⟩
  | false =>
      refine Or.inr ⟨rfl, ?_⟩
      rcases accept_cases accepted with ⟨_, rejected, _⟩ | admitted
      · simp [Message.isPreDispatch, rejected.failure,
          rejected.preDispatch] at preDispatch
      · exact admitted

/-- What the record admits follows every message that the record tells of. -/
theorem Remembers.follows
    {record : TaskAttempt}
    {identity : AttemptIdentity}
    {earlier later : Message}
    (remembers : Remembers record earlier)
    (alive : record.state ≠ .terminal)
    (admitted : AdmittedBy record identity later)
    (carries : later.identity? = some identity) :
    Follows earlier later := by
  obtain ⟨first, carriesFirst, before, same, retried⟩ := remembers.identified
  have ordered := admitted.ascending
  -- an equal attempt is the one that the record is about
  have middle : first.attempt = identity.attempt →
      first = record.identity ∧ record.identity = identity := by
    intro equal
    have here : first.attempt = record.identity.attempt := by omega
    have there : record.identity.attempt = identity.attempt := by omega
    exact ⟨same here, admitted.sameIdentity there⟩
  constructor
  · exact remembers.goesOn alive
  · exact ⟨first, carriesFirst⟩
  · exact ⟨identity, carries⟩
  · intro found other isFirst isSecond
    rw [carriesFirst] at isFirst
    rw [carries] at isSecond
    cases isFirst
    cases isSecond
    omega
  · intro found other isFirst isSecond equal
    rw [carriesFirst] at isFirst
    rw [carries] at isSecond
    cases isFirst
    cases isSecond
    obtain ⟨here, there⟩ := middle equal
    exact here.trans there
  · intro found isFirst isSecond started
    rw [carriesFirst] at isFirst
    rw [carries] at isSecond
    cases isFirst
    cases isSecond
    obtain ⟨here, there⟩ := middle rfl
    rcases admitted.again there with ⟨_, other⟩ | ⟨_, refuses⟩
    · exact other started
    · simp [Message.refusesCapacity, started] at refuses
  · intro found isFirst isSecond retry
    rw [carriesFirst] at isFirst
    rw [carries] at isSecond
    cases isFirst
    cases isSecond
    obtain ⟨here, there⟩ := middle rfl
    rcases admitted.again there with ⟨running, _⟩ | ⟨_, refuses⟩
    · exact absurd running (retried here retry)
    · exact refuses

/-- The record that an admitted message leaves tells of the earlier ones too. -/
theorem Remembers.later
    {record after : TaskAttempt}
    {earlier later : Message}
    (remembers : Remembers record earlier)
    (alive : record.state ≠ .terminal)
    (admitted : AdmittedBy record after.identity later)
    (state : after.state = nextState later.messageType) :
    Remembers after earlier := by
  obtain ⟨first, carriesFirst, before, same, retried⟩ := remembers.identified
  have ordered := admitted.ascending
  refine ⟨fun _ => remembers.goesOn alive, first, carriesFirst, by omega, ?_, ?_⟩
  · intro equal
    have here : first.attempt = record.identity.attempt := by omega
    have there : record.identity.attempt = after.identity.attempt := by omega
    exact (same here).trans (admitted.sameIdentity there)
  · rintro rfl retry
    have there : record.identity.attempt = after.identity.attempt := by omega
    have equal := admitted.sameIdentity there
    rcases admitted.again equal with ⟨running, _⟩ | ⟨_, refuses⟩
    · exact absurd running (retried equal.symm retry)
    · simp only [Message.refusesCapacity, Bool.and_eq_true,
        decide_eq_true_eq] at refuses
      rw [state, refuses.1.1]
      simp [nextState]

theorem remembers_itself
    {message : Message}
    {record : TaskAttempt}
    (carries : message.identity? = some record.identity)
    (state : record.state = nextState message.messageType) :
    Remembers record message := by
  refine ⟨?_, record.identity, carries, le_refl _, fun _ => rfl, ?_⟩
  · intro open_
    rw [state] at open_
    simp [Message.ends, open_]
  · intro _ retry
    rw [state, retry]
    simp [nextState]

/-- Messages about other tasks leave what the gate knows of a task alone. -/
theorem Tracks.other
    {gate after : Gate}
    {key : TaskKey}
    {life : List Message}
    (tracks : Tracks gate key life)
    (attempts : after.taskAttempts key = gate.taskAttempts key)
    (rejections :
      after.preDispatchRejections key = gate.preDispatchRejections key) :
    Tracks after key life where
  follows := tracks.follows
  remembered := by
    rw [attempts, rejections]
    exact tracks.remembered
  rejected := by
    rw [attempts, rejections]
    exact tracks.rejected
  dispatched := by
    rw [rejections]
    exact tracks.dispatched

/-- Every message that the gate lets through follows the life so far. -/
theorem Tracks.step
    {gate after : Gate}
    {key : TaskKey}
    {life : List Message}
    {message : Message}
    (tracks : Tracks gate key life)
    (accepted :
      acceptTaskAttemptEvent message.messageType message.data gate =
        .ok (some after)) :
    Tracks after key (life ++ [message].filter (Message.concerns key)) := by
  rcases accept_branches accepted with ⟨preDispatch, other, rejected, rfl⟩ |
    ⟨attempted, other, record, admitted, rfl⟩
  · by_cases same : key = other
    · subst same
      have named := rejected.concerns.mpr (rfl : key = key)
      -- a rejected task has no record, so no message came before
      have nothing : life = [] := by
        cases life with
        | nil =>
            rfl
        | cons first rest =>
            obtain ⟨_, known, _⟩ := tracks.remembered rejected.unrejected first
              List.mem_cons_self
            rw [rejected.unknown] at known
            cases known
      subst nothing
      simp only [List.filter_cons, named, if_true, List.filter_nil,
        List.nil_append]
      refine ⟨List.pairwise_singleton _ _, ?_, ?_, ?_⟩
      · intro open_
        simp at open_
      · intro _
        exact ⟨rejected.unknown, message, rfl, preDispatch⟩
      · intro _ _ _
        simp
    · have silent : message.concerns key = false := by
        rw [← Bool.not_eq_true, rejected.concerns]
        exact same
      simp only [List.filter_cons, silent, List.filter_nil, List.append_nil,
        Bool.false_eq_true, if_false]
      exact tracks.other rfl (by simp [same])
  · by_cases same : key = other
    · subst same
      have named := admitted.concerns.mpr (rfl : key = key)
      have told : ∀ earlier ∈ life,
          Follows earlier message ∧ Remembers record earlier := by
        intro earlier member
        obtain ⟨current, known, remembers⟩ :=
          tracks.remembered admitted.unrejected earlier member
        have admissible := admitted.admissible
        rw [known] at admissible
        obtain ⟨alive, admits⟩ := admissible
        have by_ := admittedBy_of_admits admits
        exact ⟨remembers.follows alive by_ admitted.identity?,
          remembers.later alive by_ admitted.state⟩
      simp only [List.filter_cons, named, if_true, List.filter_nil]
      refine ⟨?_, ?_, ?_, ?_⟩
      · rw [List.pairwise_append]
        refine ⟨tracks.follows, List.pairwise_singleton _ _, ?_⟩
        intro earlier member later isNew
        rw [List.mem_singleton.mp isNew]
        exact (told earlier member).1
      · intro _ earlier member
        refine ⟨record, by simp, ?_⟩
        rcases List.mem_append.mp member with old | new
        · exact (told earlier old).2
        · rw [List.mem_singleton.mp new]
          exact remembers_itself admitted.identity? admitted.state
      · intro flagged
        rw [Gate.remember_preDispatchRejections, admitted.unrejected] at flagged
        cases flagged
      · intro earlier member preDispatch
        rcases List.mem_append.mp member with old | new
        · exact tracks.dispatched earlier old preDispatch
        · rw [List.mem_singleton.mp new, attempted] at preDispatch
          cases preDispatch
    · have silent : message.concerns key = false := by
        rw [← Bool.not_eq_true, admitted.concerns]
        exact same
      simp only [List.filter_cons, silent, List.filter_nil, List.append_nil,
        Bool.false_eq_true, if_false]
      exact tracks.other (by simp [same]) rfl

/-- The gate tracks the life of a task through every sequence of messages. -/
theorem Tracks.run
    {gate : Gate}
    {key : TaskKey}
    {past : List Message}
    (tracks : Tracks gate key past)
    (messages : List Message) :
    ∃ after,
      Tracks after key
        (past ++ (accepted gate messages).filter (Message.concerns key)) := by
  induction messages generalizing gate past with
  | nil =>
      exact ⟨gate, by simpa [accepted] using tracks⟩
  | cons message rest inductionHypothesis =>
      unfold accepted
      split
      · next after passed =>
        obtain ⟨final, later⟩ := inductionHypothesis (tracks.step passed)
        refine ⟨final, ?_⟩
        have split : (message :: accepted after rest).filter
            (Message.concerns key) =
              [message].filter (Message.concerns key) ++
                (accepted after rest).filter (Message.concerns key) := by
          rw [← List.filter_append]
          rfl
        rw [split, ← List.append_assoc]
        exact later
      · exact inductionHypothesis tracks

theorem tracks_empty (key : TaskKey) : Tracks Gate.empty key [] where
  follows := List.Pairwise.nil
  remembered := fun _ _ member => absurd member List.not_mem_nil
  rejected := fun flagged => by cases flagged
  dispatched := fun _ member => absurd member List.not_mem_nil

/-! ## One life -/

/-- Of messages that cannot follow one another there is at most one. -/
theorem length_filter_le_one
    {life : List Message}
    {selected : Message → Bool}
    (follows : life.Pairwise Follows)
    (excluded :
      ∀ earlier later, selected earlier = true → selected later = true →
        ¬ Follows earlier later) :
    (life.filter selected).length ≤ 1 := by
  have kept := follows.filter selected
  cases found : life.filter selected with
  | nil =>
      simp
  | cons first rest =>
      cases rest with
      | nil =>
          simp
      | cons second others =>
          have isFirst : first ∈ life.filter selected := by simp [found]
          have isSecond : second ∈ life.filter selected := by simp [found]
          rw [found, List.pairwise_cons] at kept
          exact absurd (kept.1 second List.mem_cons_self)
            (excluded first second (List.mem_filter.mp isFirst).2
              (List.mem_filter.mp isSecond).2)

/-- A refusal for lack of capacity ends its task. -/
theorem ends_of_refusesCapacity
    {message : Message}
    (refuses : message.refusesCapacity = true) :
    message.ends = true := by
  simp only [Message.refusesCapacity, Bool.and_eq_true,
    decide_eq_true_eq] at refuses
  simp [Message.ends, refuses.1.1, nextState]

theorem isOf_iff
    (messageType : MessageType)
    (identity : AttemptIdentity)
    (message : Message) :
    message.isOf messageType identity = true ↔
      message.messageType = messageType ∧ message.identity? = some identity := by
  simp [Message.isOf]

theorem Tracks.linear
    {gate : Gate}
    {key : TaskKey}
    {life : List Message}
    (tracks : Tracks gate key life) :
    LinearLife life where
  oneEnd := length_filter_le_one tracks.follows fun earlier _ ends _ follows => by
    rw [follows.goesOn] at ends
    cases ends
  endsLast := by
    rintro leading message rest rfl ends
    cases rest with
    | nil =>
        rfl
    | cons next others =>
        have tail := (List.pairwise_append.mp tracks.follows).2.1
        have follows := (List.pairwise_cons.mp tail).1 next List.mem_cons_self
        rw [follows.goesOn] at ends
        cases ends
  identified := by
    intro message member
    cases flagged : gate.preDispatchRejections key with
    | true =>
        obtain ⟨_, only, rfl, preDispatch⟩ := tracks.rejected flagged
        rw [List.mem_singleton.mp member]
        exact Or.inr ⟨rfl, preDispatch⟩
    | false =>
        obtain ⟨_, _, remembers⟩ := tracks.remembered flagged message member
        obtain ⟨identity, carries, _⟩ := remembers.identified
        exact Or.inl (by simp [carries])
  rejectedAlone := by
    intro message member preDispatch
    obtain ⟨_, only, rfl, _⟩ :=
      tracks.rejected (tracks.dispatched message member preDispatch)
    rw [List.mem_singleton.mp member]
  ascending := tracks.follows.imp fun follows => follows.ascending
  oneIdentity := by
    have forward := tracks.follows.imp fun follows => follows.sameIdentity
    have backward : life.Pairwise (flip fun earlier later =>
        ∀ first second, Message.identity? earlier = some first →
          Message.identity? later = some second →
            first.attempt = second.attempt → first = second) := by
      refine tracks.follows.imp fun follows first second isFirst isSecond equal => ?_
      exact (follows.sameIdentity second first isSecond isFirst equal.symm).symm
    refine List.Pairwise.forall_of_forall_of_flip ?_ forward backward
    intro message _ first second isFirst isSecond _
    exact Option.some.inj (isFirst.symm.trans isSecond)
  oneStart := by
    intro identity
    refine length_filter_le_one tracks.follows ?_
    intro earlier later isFirst isSecond follows
    rw [isOf_iff] at isFirst isSecond
    exact follows.notStarted identity isFirst.2 isSecond.2 isSecond.1
  oneRetry := by
    intro identity
    refine length_filter_le_one tracks.follows ?_
    intro earlier later isFirst isSecond follows
    rw [isOf_iff] at isFirst isSecond
    have refuses := follows.afterRetry identity isFirst.2 isSecond.2 isFirst.1
    simp [Message.refusesCapacity, isSecond.1] at refuses
  afterRetry := by
    rintro leading message rest identity rfl retry
    rw [isOf_iff] at retry
    have tail := (List.pairwise_append.mp tracks.follows).2.1
    obtain ⟨first, others⟩ := List.pairwise_cons.mp tail
    have refuses : ∀ later ∈ rest,
        later.hasAttempt identity.attempt = true →
          later.refusesCapacity = true := by
      intro later member same
      have follows := first later member
      simp only [Message.hasAttempt, Option.any_eq_true,
        decide_eq_true_eq] at same
      obtain ⟨second, carries, equal⟩ := same
      have identical := follows.sameIdentity identity second retry.2 carries
        equal.symm
      subst identical
      exact follows.afterRetry identity retry.2 carries retry.1
    refine ⟨?_, refuses⟩
    have only : rest.filter (Message.hasAttempt identity.attempt) =
        (rest.filter (Message.hasAttempt identity.attempt)).filter
          Message.ends := by
      refine (List.filter_eq_self.mpr ?_).symm
      intro later member
      obtain ⟨inside, same⟩ := List.mem_filter.mp member
      exact ends_of_refusesCapacity (refuses later inside same)
    rw [only]
    refine length_filter_le_one (others.filter _) ?_
    intro earlier _ ends _ follows
    rw [follows.goesOn] at ends
    cases ends

/--
Whatever messages about a task arrive, those that the gate lets through tell one
life of the task.
-/
theorem life_linear
    (key : TaskKey)
    (messages : List Message) :
    LinearLife (life key messages) := by
  obtain ⟨_, tracks⟩ := (tracks_empty key).run messages
  exact tracks.linear

/-- The entries of a message about the first attempt of a task. -/
def firstAttempt : PyDict :=
  [("workflow_id", .str "run"), ("task_id", .str "task"), ("attempt", .int 1),
    ("dispatch_id", .str "dispatch"), ("lease_id", .str "lease")]

-- After a retry the stale failure is refused, and the capacity rejection is not.
example :
    (life ("run", "task")
      [⟨.startTask, firstAttempt⟩, ⟨.taskRetry, firstAttempt⟩,
        ⟨.taskException, firstAttempt.set "error"
          (.dict [("error_type", .str "resource_insufficient")])⟩,
        ⟨.taskException, (firstAttempt.set "capacity_rejection" (.bool true)).set
          "error" (.dict [("error_type", .str "resource_capacity_exceeded")])⟩,
        ⟨.finishTask, firstAttempt⟩]).map Message.messageType =
      [.startTask, .taskRetry, .taskException] := by
  decide

end Maze.Core.AttemptGate
