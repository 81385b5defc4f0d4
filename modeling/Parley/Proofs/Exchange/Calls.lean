/-
Module: Parley.Proofs.Exchange.Calls
Layer: Proofs
Purpose: Which calls the tool rounds of an exchange make.  A call is made for each request of each
  round, in order, but for those like which one has succeeded before in the exchange; these are
  answered by the earlier result.  A call is told the results of the calls before it that succeeded,
  without those of the opening.  Nothing is called any more once the exchange has been cancelled or a
  call has ended it.
Main exports: Exchange.result?_eq_of_mem, Exchange.Halted, Exchange.Account, Exchange.run_accounted
-/
import Parley.Proofs.Exchange.Inquiries

namespace Parley.Exchange

open Program (Asked Runs)

variable {η : Type}

/-! ### Requests under other ids -/

/-- What a request asks for, whatever its id. -/
def wanted (request : ToolRequest) : String × String := (request.tool, request.arguments)

theorem wanted_distinctFrom (supplied : List String) (number : Nat) (seen : List String)
    (index : Nat) (requests : List ToolRequest) :
    (RequestIds.distinctFrom supplied number seen index requests).map wanted =
      requests.map wanted := by
  induction requests generalizing seen index with
  | nil => rfl
  | cons request requests ih =>
      rw [RequestIds.distinctFrom, List.map_cons, List.map_cons, ih]
      rfl

/-- Distinct ids change nothing in what is asked for. -/
theorem wanted_distinct (number : Nat) (requests : List ToolRequest) :
    (RequestIds.distinct number requests).map wanted = requests.map wanted :=
  wanted_distinctFrom ..

/-! ### Earlier results -/

section Earlier

variable {desk : Desk η} {history : List Resolved} {request other : ToolRequest} {value : Json}

theorem result?_congr (tool : request.tool = other.tool)
    (arguments : request.arguments = other.arguments) :
    result? history request = result? history other := by
  have alike : ∀ resolved : Resolved, resolved.isLike request = resolved.isLike other := by
    intro resolved
    rw [Resolved.isLike, Resolved.isLike, tool, arguments]
  simp only [result?, alike]

/-- A result that has been found is found from then on, as no like call is made after it. -/
theorem result?_stays (reuses : desk.reuses = true) {rest : List Resolved}
    (lawful : Lawful desk history rest) (found : result? history request = some value) :
    result? (history ++ rest) request = some value := by
  induction rest generalizing history with
  | nil => rwa [List.append_nil]
  | cons next rest ih =>
      obtain ⟨fits, lawfulAfter⟩ := lawful
      rw [← List.singleton_append, ← List.append_assoc]
      apply ih lawfulAfter
      rw [result?_concat]
      split
      · next like =>
          have reused : next.means = .reused value.render := by
            simp only [Resolved.isLike, Bool.and_eq_true, decide_eq_true_eq] at like
            rw [result?_congr like.1.symm like.2.symm] at found
            simpa [Fits, reuses, found] using fits
          simp [Resolved.value?, reused, found]
      · exact found

/-- Where a like request has succeeded, its result is the one that is found. -/
theorem result?_eq_of_mem (reuses : desk.reuses = true) (lawful : Lawful desk [] history)
    {success : Resolved} (member : success ∈ history) (like : success.isLike request = true)
    (succeeded : success.value? = some value) : result? history request = some value := by
  obtain ⟨before, after, rfl⟩ := List.append_of_mem member
  rw [← List.singleton_append, ← List.append_assoc] at lawful ⊢
  apply result?_stays reuses (lawful_append.1 lawful).2
  rw [List.nil_append, result?_concat]
  simp [like, succeeded]

/-- Where no like request has succeeded, there is no result. -/
theorem result?_eq_none
    (never : ∀ earlier ∈ history, earlier.isLike request = true → earlier.value? = none) :
    result? history request = none := by
  rw [result?, List.findSome?_eq_none_iff]
  intro earlier member
  split
  · next like => exact never earlier (List.mem_reverse.1 member) like
  · rfl

end Earlier

/-! ### An account of the rounds -/

/-- An exchange ended after some requests of a round: it was cancelled before the next one, or the
last call ended it. -/
inductive Halted (log : Log) (result : Except Fault Reply) : List Resolved → Prop where
  | cancelled {resolved : List Resolved} :
      (∀ one ∈ resolved, one.fault? = none) → log.getLast? = some ⟨.isCancelled, true⟩ →
      result = .error .cancelled → Halted log result resolved
  | failed {resolved : List Resolved} {last : Resolved} {fault : Fault} :
      (∀ one ∈ resolved, one.fault? = none) → last.fault? = some fault →
      result = .error fault → Halted log result (resolved ++ [last])

/-- An account of the tool rounds of an exchange, from the transcript on that the model was first
shown: what the model said in each, and how the requests were resolved. -/
structure Account (plan : Plan η) (input : Input) (log : Log) (result : Except Fault Reply)
    (first : Transcript) (rounds : List Round) : Prop where
  /-- A round begins as the model is shown all that the rounds before it added, and asks for tools. -/
  begun : ∀ (index : Nat) (round : Round), rounds[index]? = some round →
    (adopted round.said).asksForTools = true ∧
      ∃ inquiry, (inquiries log)[index]? = some inquiry ∧ inquiry.answer = .ok round.said ∧
        inquiry.request.transcript =
          first ++ turnsOf (plan.catalog.toolset input.subset).names (rounds.take index)
  /-- All its requests are resolved, in order, unless the exchange ends in it. -/
  resolved : ∀ (index : Nat) (round : Round), rounds[index]? = some round →
    round.Complete (index + 1) ∨
      index + 1 = rounds.length ∧ Halted log result round.resolved ∧
        round.resolved.map (·.request) <+: RequestIds.distinct (index + 1) round.said.requests
  /-- They ask for what the model asked for, in its order, whatever it called them. -/
  wanted : ∀ (index : Nat) (round : Round), rounds[index]? = some round →
    round.resolved.map (fun one => wanted one.request) <+: round.said.requests.map wanted
  /-- If the model is asked once more, it is shown what all rounds added; and there is no other round,
  as it does not ask for tools, or does so once too often. -/
  next : ∀ inquiry, (inquiries log)[rounds.length]? = some inquiry →
    inquiry.request.transcript =
        first ++ turnsOf (plan.catalog.toolset input.subset).names rounds ∧
      ∀ said, inquiry.answer = .ok said → (adopted said).asksForTools = true →
        rounds.length = plan.settings.maxRounds ∧
          result = .error (.loopExhausted plan.settings.maxRounds)
  /-- The calls made since the model was first asked are those for the requests, in order. -/
  called : callsIn ((inquiries log).flatMap (·.since)) =
    callsFor input.session input.message [] (resolvedIn rounds)
  /-- Where a like request has succeeded before, its result is reused. -/
  reused : ∀ earlier now later, resolvedIn rounds = earlier ++ now :: later →
    ∀ success ∈ earlier, ∀ value, success.isLike now.request = true →
      success.value? = some value → now.means = .reused value.render
  /-- Where none has, a call is made. -/
  anew : ∀ earlier now later, resolvedIn rounds = earlier ++ now :: later →
    (∀ other ∈ earlier, other.isLike now.request = true → other.value? = none) →
      ∃ outcome, now.means = .called outcome
  /-- With a reply, what all rounds added is saved before the last turn. -/
  saved : ∀ reply, result = .ok reply → ∃ final,
    (⟨.save input.session
      (first ++ turnsOf (plan.catalog.toolset input.subset).names rounds ++ [final]).numbered,
        .ok ()⟩ : Asked (exchangeInterface wholeCalls)) ∈ log

section Accounts

variable {plan : Plan η} {input : Input} {log : Log} {result : Except Fault Reply}
  {first : Transcript} {rounds : List Round}

/-- Where an exchange is prevented, there are no rounds. -/
theorem account_of_prevented {fault : Fault} (prevented : Prevented plan log)
    (failed : result = .error fault) : Account plan input log result [] [] where
  begun := by simp
  resolved := by simp
  wanted := by simp
  next := by simp [inquiries_of_quiet prevented.quiet]
  called := by
    rw [inquiries_of_quiet prevented.quiet]
    rfl
  reused := by simp
  anew := by simp
  saved reply succeeded := by
    rw [failed] at succeeded
    contradiction

/-- Rounds are accounted for by the inquiries that tell them, if no request is resolved after them. -/
theorem Told.account {notes : List String} {date : CivilDate} {told more : List Inquiry}
    (isTold : Told (plan.frame true input notes date) first [] rounds told)
    (divided : inquiries log = told ++ more)
    (lawful : Lawful (plan.frame true input notes date).desk [] (resolvedIn rounds))
    (resolved : ∀ (index : Nat) (round : Round), rounds[index]? = some round →
      round.Complete (index + 1) ∨
        index + 1 = rounds.length ∧ Halted log result round.resolved ∧
          (adopted round.said).asksForTools = true ∧
          round.resolved.map (·.request) <+: RequestIds.distinct (index + 1) round.said.requests)
    (idle : ∀ inquiry ∈ more, Idle inquiry.since)
    (next : ∀ inquiry, more[0]? = some inquiry →
      inquiry.request = (plan.frame true input notes date).request
          (first ++ turnsOf (plan.catalog.toolset input.subset).names rounds) [] ∧
        ∀ said, inquiry.answer = .ok said → (adopted said).asksForTools = true →
          rounds.length = plan.settings.maxRounds ∧
            result = .error (.loopExhausted plan.settings.maxRounds))
    (saved : ∀ reply, result = .ok reply → ∃ final,
      (⟨.save input.session
        (first ++ turnsOf (plan.catalog.toolset input.subset).names rounds ++ [final]).numbered,
          .ok ()⟩ : Asked (exchangeInterface wholeCalls)) ∈ log) :
    Account plan input log result first rounds where
  begun index round isRound := by
    constructor
    · rcases resolved index round isRound with complete | ⟨-, -, asks, -⟩
      · exact complete.asks
      · exact asks
    · obtain ⟨inquiry, found, begins⟩ := isTold.begins isRound
      refine ⟨inquiry, ?_, begins.answer, by rw [begins.request]; rfl⟩
      obtain ⟨isTold, -⟩ := List.getElem?_eq_some_iff.1 found
      rw [divided, List.getElem?_append_left isTold]
      exact found
  resolved index round isRound := by
    rcases resolved index round isRound with complete | ⟨isLast, halted, -, isPart⟩
    · exact .inl complete
    · exact .inr ⟨isLast, halted, isPart⟩
  wanted index round isRound := by
    have isPart : round.resolved.map (·.request) <+:
        RequestIds.distinct (index + 1) round.said.requests := by
      rcases resolved index round isRound with complete | ⟨-, -, -, isPart⟩
      · exact complete.requests ▸ List.prefix_rfl
      · exact isPart
    have wantedPart := isPart.map wanted
    rwa [wanted_distinct, List.map_map] at wantedPart
  next inquiry found := by
    rw [divided, ← isTold.length_eq, List.getElem?_append_right (Nat.le_refl _), Nat.sub_self]
      at found
    obtain ⟨request, unasked⟩ := next inquiry found
    exact ⟨by rw [request]; rfl, unasked⟩
  called := by
    have silent : callsIn (more.flatMap (·.since)) = [] := by
      apply Idle.callsIn
      intro asked member
      obtain ⟨inquiry, isMore, within⟩ := List.mem_flatMap.1 member
      exact idle inquiry isMore asked within
    rw [divided, List.flatMap_append, callsIn_append, isTold.calls, silent, List.append_nil]
    rfl
  reused earlier now later split success member value like succeeded := by
    rw [split] at lawful
    obtain ⟨lawfulBefore, fits, -⟩ := lawful_append.1 lawful
    have found := result?_eq_of_mem rfl lawfulBefore member like succeeded
    rw [List.nil_append] at fits
    simpa [Fits, Plan.frame, found] using fits
  anew earlier now later split never := by
    rw [split] at lawful
    obtain ⟨-, fits, -⟩ := lawful_append.1 lawful
    rw [List.nil_append] at fits
    simpa [Fits, result?_eq_none never] using fits
  saved := saved

/-- What is saved at the end, if that succeeds. -/
theorem saved_of_finish {frame : Frame η} {turns : Transcript} {text : String} {number : Nat}
    {fallback : Bool} {reply : Reply}
    (runs : Runs (finish frame turns text number fallback).run log (.ok reply)) :
    (⟨.save frame.desk.session turns.numbered, .ok ()⟩ :
      Asked (exchangeInterface wholeCalls)) ∈ log := by
  rcases runs_finish runs with ⟨fault, -, same⟩ | ⟨rfl, -⟩
  · contradiction
  · exact List.mem_cons_self ..

theorem saved_of_answer {frame : Frame η} {turns : Transcript} {said : Turn} {number : Nat}
    {reply : Reply} (runs : Runs (answer frame number turns said).run log (.ok reply)) :
    ∃ final, (⟨.save frame.desk.session (turns ++ [final]).numbered, .ok ()⟩ :
      Asked (exchangeInterface wholeCalls)) ∈ log := by
  rcases runs_answer runs with ⟨fault, -, same⟩ | ⟨final, before, after, rfl, -, ends⟩
  · contradiction
  · exact ⟨final, List.mem_append_right before (saved_of_finish ends)⟩

/-- After the rounds no request is resolved; the model is shown what they added, and so much is
saved. -/
structure Aftermath (frame : Frame η) (left number : Nat) (turns : Transcript) (ending : Log)
    (result : Except Fault Reply) : Prop where
  since : ∀ inquiry ∈ inquiries ending, Idle inquiry.since
  next : ∀ inquiry, (inquiries ending)[0]? = some inquiry →
    inquiry.request = frame.request turns [] ∧
      ∀ said, inquiry.answer = .ok said → (adopted said).asksForTools = true →
        left = 0 ∧ result = .error (.loopExhausted number)
  saved : ∀ reply, result = .ok reply → ∃ final,
    (⟨.save frame.desk.session (turns ++ [final]).numbered, .ok ()⟩ :
      Asked (exchangeInterface wholeCalls)) ∈ ending

/-- The exchange ends in a round after `number` others. -/
structure Cut (frame : Frame η) (number : Nat) (turns : Transcript) (history : List Resolved)
    (part : Round) (ending : Log) (result : Except Fault Reply) : Prop where
  asks : (adopted part.said).asksForTools = true
  requests : part.resolved.map (·.request) <+: RequestIds.distinct (number + 1) part.said.requests
  lawful : Lawful frame.desk history part.resolved
  stops : ∃ log fault, Stops frame.desk history part.resolved log fault ∧ result = .error fault ∧
    ending = ⟨.isCancelled, false⟩ :: ⟨.complete (frame.request turns []), .ok part.said⟩ :: log

theorem Closes.aftermath {frame : Frame η} {left number : Nat} {turns : Transcript}
    {history : List Resolved} {ending : Log}
    (closes : Closes frame left number turns history ending result) :
    Aftermath frame left number turns ending result ∨
      ∃ part, Cut frame number turns history part ending result := by
  cases closes with
  | @givenUp log _ _ _ runs =>
      have divided := divide_of_quiet (quiet_finish runs).1
      left
      constructor
      · simp [inquiries, divide, divided]
      · simp [inquiries, divide, divided]
      · rintro reply rfl
        exact ⟨_, List.mem_cons_of_mem _ (saved_of_finish runs)⟩
  | ends _ ends =>
      cases ends with
      | cancelled =>
          left
          constructor
          · simp [inquiries, divide]
          · simp [inquiries, divide]
          · simp
      | failed fault =>
          left
          constructor
          · simp [inquiries, divide, Idle]
          · simp [inquiries, divide]
          · simp
      | exhausted said none asks =>
          left
          constructor
          · simp [inquiries, divide, Idle, called?, isReuse]
          · simp [inquiries, divide, none]
          · simp
      | stopped part some asks isPart lawful stops =>
          exact .inr ⟨part, asks, isPart, lawful, _, _, stops, rfl, rfl⟩
      | @answered said log _ isFinal runs =>
          have closing := closing_answer runs
          left
          constructor
          · simpa [inquiries, divide] using ⟨closing.idle, closing.since⟩
          · simp [inquiries, divide, isFinal]
          · rintro reply rfl
            obtain ⟨final, saved⟩ := saved_of_answer runs
            exact ⟨final, List.mem_cons_of_mem _ (List.mem_cons_of_mem _ saved)⟩

theorem Stops.halted {desk : Desk η} {history resolved : List Resolved} {part : Log}
    {fault : Fault} (before : Log) (stops : Stops desk history resolved part fault)
    (failed : result = .error fault) : Halted (before ++ part) result resolved := by
  cases stops with
  | cancelled settled => exact .cancelled settled (by simp) failed
  | failed settled fatal => exact .failed settled fatal failed

/-- A round in which the exchange ends is one inquiry. -/
theorem Cut.divided {frame : Frame η} {number : Nat} {turns : Transcript}
    {history : List Resolved} {part : Round} {ending : Log}
    (cut : Cut frame number turns history part ending result) :
    ∃ inquiry, inquiries ending = [inquiry] ∧ inquiry.Begins frame turns history part := by
  obtain ⟨log, fault, stops, -, rfl⟩ := cut.stops
  obtain ⟨quiet, since⟩ := stops.log_eq
  have divided := divide_of_quiet quiet
  refine ⟨⟨frame.request turns [], .ok part.said, log⟩, ?_, rfl, rfl, since⟩
  simp [inquiries, divide, divided]

theorem Cut.halted {frame : Frame η} {number : Nat} {turns : Transcript}
    {history : List Resolved} {part : Round} {before ending : Log}
    (cut : Cut frame number turns history part ending result) :
    Halted (before ++ ending) result part.resolved := by
  obtain ⟨log, fault, stops, failed, rfl⟩ := cut.stops
  have halted := stops.halted (before ++
    [⟨.isCancelled, false⟩, ⟨.complete (frame.request turns []), .ok part.said⟩]) failed
  simpa using halted

section Course

variable {notes : List String} {date : CivilDate} {before ending : Log}

/-- The rounds of an exchange from its beginning on are numbered from one. -/
theorem Course.complete_first {frame : Frame η} {left : Nat} {turns : Transcript}
    (course : Course frame 0 left turns [] rounds ending result) {index : Nat} {round : Round}
    (isRound : rounds[index]? = some round) : round.Complete (index + 1) := by
  have complete := course.complete index round isRound
  rwa [Nat.zero_add] at complete

theorem Course.closes_first {frame : Frame η} {left : Nat} {turns : Transcript}
    (course : Course frame 0 left turns [] rounds ending result) :
    Closes frame (left - rounds.length) rounds.length
      (turns ++ turnsOf frame.desk.tools.names rounds) (resolvedIn rounds) ending result := by
  have closes := course.closes
  rwa [Nat.zero_add, List.nil_append] at closes

/-- Where the exchange ends after its rounds, these are all rounds of the account. -/
theorem Course.account_of_aftermath (quiet : ∀ asked ∈ before, Quiet asked.question)
    (course : Course (plan.frame true input notes date) 0 plan.settings.maxRounds first [] rounds
      ending result)
    (aftermath : Aftermath (plan.frame true input notes date)
      (plan.settings.maxRounds - rounds.length) rounds.length
      (first ++ turnsOf (plan.catalog.toolset input.subset).names rounds) ending result) :
    Account plan input
      (before ++ (roundsLog (plan.frame true input notes date) 0 first [] rounds ++ ending)) result
      first rounds := by
  have divided := inquiries_append_of_quiet
    (roundsLog (plan.frame true input notes date) 0 first [] rounds ++ ending) quiet
  obtain ⟨told, isTold, parts, -⟩ :=
    told_roundsLog (plan.frame true input notes date) 0 first [] rounds course.closes.idle
  refine isTold.account (divided.trans parts) course.lawful
    (fun index round isRound => .inl (course.complete_first isRound)) aftermath.since ?_ ?_
  · intro inquiry isNext
    obtain ⟨request, unasked⟩ := aftermath.next inquiry isNext
    refine ⟨request, fun said answered asks => ?_⟩
    obtain ⟨none, exhausted⟩ := unasked said answered asks
    have all : rounds.length = plan.settings.maxRounds :=
      Nat.le_antisymm course.bound (Nat.le_of_sub_eq_zero none)
    exact ⟨all, all ▸ exhausted⟩
  · intro reply succeeded
    obtain ⟨final, saved⟩ := aftermath.saved reply succeeded
    exact ⟨final, List.mem_append_right _ (List.mem_append_right _ saved)⟩

/-- Where the exchange ends in a round, this one is the last of the account. -/
theorem Course.account_of_cut {part : Round} (quiet : ∀ asked ∈ before, Quiet asked.question)
    (course : Course (plan.frame true input notes date) 0 plan.settings.maxRounds first [] rounds
      ending result)
    (cut : Cut (plan.frame true input notes date) rounds.length
      (first ++ turnsOf (plan.catalog.toolset input.subset).names rounds) (resolvedIn rounds) part
      ending result) :
    Account plan input
      (before ++ (roundsLog (plan.frame true input notes date) 0 first [] rounds ++ ending)) result
      first (rounds ++ [part]) := by
  have divided := inquiries_append_of_quiet
    (roundsLog (plan.frame true input notes date) 0 first [] rounds ++ ending) quiet
  obtain ⟨told, isTold, parts, -⟩ :=
    told_roundsLog (plan.frame true input notes date) 0 first [] rounds course.closes.idle
  obtain ⟨inquiry, isLast, begins⟩ := cut.divided
  rw [isLast] at parts
  have isToldAll := isTold.concat begins
  have all : inquiries (before ++
      (roundsLog (plan.frame true input notes date) 0 first [] rounds ++ ending)) =
      told ++ [inquiry] ++ [] := by rw [divided, parts, List.append_nil]
  refine isToldAll.account all ?_ ?_ ?_ ?_ ?_
  · rw [resolvedIn_append]
    simpa using lawful_append.2 ⟨course.lawful, by simpa using cut.lawful⟩
  · intro index round isRound
    rcases Nat.lt_or_ge index rounds.length with isWhole | isPart
    · rw [List.getElem?_append_left isWhole] at isRound
      exact .inl (course.complete_first isRound)
    · right
      rw [List.getElem?_append_right isPart, List.getElem?_singleton] at isRound
      split at isRound
      · next isFirst =>
          cases isRound
          have isIndex : index = rounds.length :=
            Nat.le_antisymm (Nat.le_of_sub_eq_zero isFirst) isPart
          subst isIndex
          rw [← List.append_assoc]
          exact ⟨by simp, cut.halted, cut.asks, cut.requests⟩
      · contradiction
  · simp
  · simp
  · intro reply succeeded
    obtain ⟨log, fault, -, failed, -⟩ := cut.stops
    rw [failed] at succeeded
    contradiction

/-- The course of an exchange is accounted for. -/
theorem Course.account (quiet : ∀ asked ∈ before, Quiet asked.question)
    (course : Course (plan.frame true input notes date) 0 plan.settings.maxRounds first [] rounds
      ending result) :
    ∃ begun, Account plan input
      (before ++ (roundsLog (plan.frame true input notes date) 0 first [] rounds ++ ending)) result
      first begun := by
  rcases course.closes_first.aftermath with aftermath | ⟨part, cut⟩
  · exact ⟨rounds, course.account_of_aftermath quiet aftermath⟩
  · exact ⟨rounds ++ [part], course.account_of_cut quiet cut⟩

end Course

end Accounts

/-- However an exchange is answered, its tool rounds are accounted for. -/
theorem run_accounted {plan : Plan η} {input : Input} {log : Log} {result : Except Fault Reply}
    (runs : Runs (run plan input).run log result) :
    ∃ first rounds, Account plan input log result first rounds := by
  rcases runs_runWith runs with ⟨fault, failed, prevented⟩ |
    ⟨stored, added, opened, notes, date, rounds, ending, rfl, isOpened, course⟩
  · exact ⟨[], [], account_of_prevented prevented failed⟩
  · obtain ⟨begun, account⟩ := course.account (isOpened.quiet_preparation notes date)
    exact ⟨_, begun, account⟩

/-! ### A lantern asked for again and again -/

/-- An intent without arguments. -/
def lantern : Intent Unit :=
  { code := "lantern", description := [], shape := .empty, handler := () }

/-- The lantern may be asked for, and no session is opened by it. -/
def lanternPlan : Plan Unit :=
  { catalog := Catalog.ofIntents [lantern], settings := .standard, opening := none
    syntaxDetails := id }

/-- Somebody asks for light. -/
def asking : Input :=
  { session := "hall", user := none, message := "light, please", subset := none }

/-- The model asks twice for the lantern in each of two rounds, and then answers; the lantern works.
The state is the number of the model's turns. -/
def lighting : (question : ExchangeQuestion wholeCalls) → StateM Nat question.Answer
  | .secure _ _ _ => pure (.ok ())
  | .load _ => pure (.ok [])
  | .save _ _ => pure (.ok ())
  | .loadNotes _ => pure (.ok [])
  | .report _ => pure ()
  | .isCancelled => pure false
  | .today => pure (CivilDate.ofEpochSeconds 0)
  | .complete _ => fun spoken =>
      let request : ToolRequest := { id := "", tool := "lantern", arguments := "\x7b\x7d" }
      (.ok (if spoken < 2 then Turn.asking "" [request, request] else Turn.plain .assistant "done"),
        spoken + 1)
  | .call _ => pure (.ok (.str "on"))

/-- The exchange, with the questions that are asked in it. -/
def lit : Except Fault Reply × Nat × Log :=
  Program.run (I := exchangeInterface wholeCalls) (Program.recording lighting)
    (run lanternPlan asking).run (0, [])

theorem run_accounted_lit :
    Runs (run lanternPlan asking).run lit.2.2 lit.1 ∧ (inquiries lit.2.2).length = 3 ∧
      (callsIn lit.2.2).length = 1 ∧
      ∃ first rounds, Account lanternPlan asking lit.2.2 lit.1 first rounds := by
  obtain ⟨log, isLog, runs⟩ := Program.runs_recording lighting (run lanternPlan asking).run 0 []
  rw [List.nil_append] at isLog
  have runs : Runs (run lanternPlan asking).run lit.2.2 lit.1 := isLog ▸ runs
  exact ⟨runs, by decide +kernel, by decide +kernel, run_accounted runs⟩

end Parley.Exchange
