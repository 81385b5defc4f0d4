/-
Module: Parley.Proofs.Program.Partial
Layer: Proofs
Purpose: Runs that are not over.  After some answers a program stands at its next question, or it is
  done.  Where its questions are replaced, it stands inside of what stands for one of them: the
  questions before this one have been answered, and so has a part of those that stand for it.
Main exports: Program.After, Program.Keeps.after, Program.Stands, Program.EndsIn,
  Program.stands_embed, Program.Stands.later
-/
import Parley.Proofs.Program.Runs

namespace Parley.Program

variable {I J : Interface} {α β : Type}

/-- `After program log left`: some surroundings have given the answers in `log`, in this order, and
`left` is what is left of the program. -/
inductive After : Program I α → List (Asked I) → Program I α → Prop where
  | refl (program : Program I α) : After program [] program
  | ask {question : I.Question} {next : I.Answer question → Program I α}
      {answer : I.Answer question} {log : List (Asked I)} {left : Program I α} :
      After (next answer) log left → After (.ask question next) (⟨question, answer⟩ :: log) left

section After

variable {program left : Program I α} {log : List (Asked I)}

/-- One more question is answered. -/
theorem After.snoc {question : I.Question} {next : I.Answer question → Program I α}
    (after : After program log (.ask question next)) (answer : I.Answer question) :
    After program (log ++ [⟨question, answer⟩]) (next answer) := by
  generalize isLeft : Program.ask question next = left at after
  induction after with
  | refl program =>
      subst isLeft
      exact .ask (.refl _)
  | ask _ ih => exact .ask (ih isLeft)

theorem After.trans {middle : Program I α} {more : List (Asked I)}
    (first : After program log middle) (second : After middle more left) :
    After program (log ++ more) left := by
  induction first with
  | refl => exact second
  | ask _ ih => exact .ask (ih second)

/-- What is left of a program whose result is made into another is left of the program. -/
theorem After.of_bind_done {made : α → β} {rest : Program I β}
    (after : After (program >>= fun result => .done (made result)) log rest) :
    ∃ inner, After program log inner ∧ rest = inner >>= fun result => .done (made result) := by
  induction program generalizing log with
  | done result =>
      cases after
      exact ⟨.done result, .refl _, rfl⟩
  | ask question next ih =>
      cases after with
      | refl => exact ⟨.ask question next, .refl _, rfl⟩
      | ask more =>
          obtain ⟨inner, afterInner, same⟩ := ih _ more
          exact ⟨inner, .ask afterInner, same⟩

/-- A program that is done is at the end of a run. -/
theorem runs_iff_after {result : α} : Runs program log result ↔ After program log (.done result) := by
  constructor
  · intro runs
    induction runs with
    | done result => exact .refl _
    | ask _ ih => exact .ask ih
  · intro after
    generalize isLeft : Program.done result = left at after
    induction after with
    | refl program =>
        subst isLeft
        exact .done result
    | ask _ ih => exact .ask (ih isLeft)

/-- What has been asked of what is kept may be asked, and the rest keeps it too. -/
theorem Keeps.after {asks : List (Asked I) → I.Question → Prop} {post : α → List (Asked I) → Prop}
    {before : List (Asked I)} (keeps : program.Keeps (remembering asks) post before)
    (after : After program log left) :
    (∀ early asked late, log = early ++ asked :: late → asks (before ++ early) asked.question) ∧
      left.Keeps (remembering asks) post (before ++ log) := by
  induction after generalizing before with
  | refl program =>
      rw [List.append_nil]
      exact ⟨by simp, keeps⟩
  | @ask question next answer log left _ ih =>
      obtain ⟨allowed, keepsOn⟩ := ih (keeps.2 answer _ rfl)
      rw [List.append_assoc] at keepsOn
      refine ⟨?_, keepsOn⟩
      intro early asked late split
      cases early with
      | nil =>
          cases split
          rw [List.append_nil]
          exact keeps.1
      | cons first early =>
          cases split
          have later := allowed early asked late rfl
          rwa [List.append_assoc] at later

end After

/-! ### Replaced questions -/

/-- Whether a program asks nothing more. -/
def isDone : Program I α → Bool
  | .done _ => true
  | .ask _ _ => false

/-- Where a program is left whose questions are replaced: at its end, or inside of what stands for its
next question, of which a part has been asked. -/
def Inside (meaning : (question : I.Question) → Program J (I.Answer question)) :
    (left : Program I α) → (part : List (Asked J)) → (now : Program J α) → Prop
  | .done result, part, now => part = [] ∧ now = .done result
  | .ask question next, part, now =>
      ∃ inner, After (meaning question) part inner ∧ inner.isDone = false ∧
        now = inner >>= fun answer => embed meaning (next answer)

/-- The answers in `whole` have been given to a program whose questions are replaced, and `now` is left
of it.  Of its own questions those in `log` have been answered, and `left` is left after them. -/
structure Stands (meaning : (question : I.Question) → Program J (I.Answer question))
    (program : Program I α) (log : List (Asked I)) (left : Program I α)
    (whole : List (Asked J)) (now : Program J α) : Prop where
  after : After program log left
  inside : ∃ before part, whole = before ++ part ∧ Expands meaning log before ∧
    Inside meaning left part now

/-- What stands for a question has come to its end with one of some answers, if it asks anything. -/
def EndsIn (meaning : (question : I.Question) → Program J (I.Answer question))
    (answers : List (Asked J)) (asked : Asked I) : Prop :=
  ∃ part, Runs (meaning asked.question) part asked.answer ∧
    ∀ last, part.getLast? = some last → last ∈ answers

section Stands

variable {meaning : (question : I.Question) → Program J (I.Answer question)}
  {program left : Program I α} {log : List (Asked I)} {whole : List (Asked J)} {now : Program J α}

theorem Expands.append {first second : List (Asked I)} {before after : List (Asked J)}
    (expands : Expands meaning first before) (rest : Expands meaning second after) :
    Expands meaning (first ++ second) (before ++ after) := by
  induction expands with
  | nil => exact rest
  | cons runs _ ih =>
      rw [List.append_assoc]
      exact .cons runs ih

theorem Expands.snoc {question : I.Question} {answer : I.Answer question} {part : List (Asked J)}
    (expands : Expands meaning log whole) (runs : Runs (meaning question) part answer) :
    Expands meaning (log ++ [⟨question, answer⟩]) (whole ++ part) := by
  have last := Expands.cons runs .nil
  rw [List.append_nil] at last
  exact expands.append last

/-- From what has been answered on, a program goes past all questions for which nothing is asked. -/
theorem Stands.skip (after : After program log left) (expands : Expands meaning log whole) :
    ∃ more rest, Stands meaning program (log ++ more) rest whole (embed meaning left) ∧
      ∀ asked ∈ more, EndsIn meaning [] asked := by
  induction left generalizing log with
  | done result =>
      refine ⟨[], .done result, ⟨?_, whole, [], ?_, ?_, rfl, rfl⟩, by simp⟩
      · rwa [List.append_nil]
      · rw [List.append_nil]
      · rwa [List.append_nil]
  | ask question next ih =>
      cases isMeaning : meaning question with
      | done answer =>
          have asksNothing : Runs (meaning question) [] answer := isMeaning ▸ .done answer
          have expandsOn := expands.snoc asksNothing
          rw [List.append_nil] at expandsOn
          obtain ⟨more, rest, stands, none⟩ := ih answer (after.snoc answer) expandsOn
          have goesOn : embed meaning (.ask question next) = embed meaning (next answer) := by
            rw [embed, isMeaning, done_bind]
          rw [List.append_assoc, List.singleton_append] at stands
          refine ⟨⟨question, answer⟩ :: more, rest, goesOn ▸ stands, ?_⟩
          intro asked member
          rcases List.mem_cons.1 member with here | there
          · rw [here]
            exact ⟨[], asksNothing, by simp⟩
          · exact none asked there
      | ask inner asks =>
          refine ⟨[], .ask question next, ⟨?_, whole, [], ?_, ?_, ?_⟩, by simp⟩
          · rwa [List.append_nil]
          · rw [List.append_nil]
          · rwa [List.append_nil]
          · exact ⟨_, .refl _, by rw [isMeaning]; rfl, rfl⟩

/-- A program stands at the first of its questions for which anything is asked. -/
theorem stands_embed (meaning : (question : I.Question) → Program J (I.Answer question))
    (program : Program I α) :
    ∃ log left, Stands meaning program log left [] (embed meaning program) := by
  have none : Expands meaning [] [] := .nil
  obtain ⟨log, left, stands, -⟩ := Stands.skip (.refl program) none
  exact ⟨log, left, stands⟩

/-- An answer may be the last one for a question; then what stands for it ends in this answer. -/
theorem Stands.answered {question : J.Question} {next : J.Answer question → Program J α}
    (stands : Stands meaning program log left whole (.ask question next))
    (answer : J.Answer question) :
    ∃ more rest,
      Stands meaning program (log ++ more) rest (whole ++ [⟨question, answer⟩]) (next answer) ∧
      ∀ asked ∈ more, EndsIn meaning [⟨question, answer⟩] asked := by
  obtain ⟨after, before, part, rfl, expands, inside⟩ := stands
  cases left with
  | done result =>
      obtain ⟨-, isDone⟩ := inside
      contradiction
  | ask outer rest =>
      obtain ⟨inner, afterInner, notDone, same⟩ := inside
      cases inner with
      | done _ => contradiction
      | ask asked goesOn =>
          cases same
          have afterAnswer := afterInner.snoc answer
          cases ended : goesOn answer with
          | ask _ _ =>
              refine ⟨[], .ask outer rest, ⟨?_, before, _, List.append_assoc .., ?_, ?_⟩, by simp⟩
              · rwa [List.append_nil]
              · rwa [List.append_nil]
              · exact ⟨_, afterAnswer, by rw [ended]; rfl, rfl⟩
          | done value =>
              -- this was the last answer for `outer`, which is answered by `value` itself
              rw [ended] at afterAnswer
              have runs := runs_iff_after.2 afterAnswer
              obtain ⟨more, left, stands, none⟩ :=
                Stands.skip (after.snoc value) (expands.snoc runs)
              rw [List.append_assoc, List.singleton_append, ← List.append_assoc] at stands
              have goesPast : (goesOn answer >>= fun given => embed meaning (rest given)) =
                  embed meaning (rest value) := by rw [ended, done_bind]
              rw [← goesPast] at stands
              refine ⟨⟨outer, value⟩ :: more, left, stands, ?_⟩
              intro asked member
              rcases List.mem_cons.1 member with here | there
              · rw [here]
                exact ⟨_, runs, by simp⟩
              · obtain ⟨part, runs, isLast⟩ := none asked there
                exact ⟨part, runs, fun last ends => nomatch isLast last ends⟩

/-- A program that stands somewhere goes on; what stands for the questions that are answered meanwhile
ends meanwhile. -/
theorem Stands.later {after : Program J α} {answers : List (Asked J)}
    (stands : Stands meaning program log left whole now) (goesOn : After now answers after) :
    ∃ more rest, Stands meaning program (log ++ more) rest (whole ++ answers) after ∧
      ∀ asked ∈ more, EndsIn meaning answers asked := by
  induction goesOn generalizing log left whole with
  | refl now =>
      refine ⟨[], left, ?_, by simp⟩
      rwa [List.append_nil, List.append_nil]
  | @ask question next answer answers after _ ih =>
      obtain ⟨more, rest, standsThen, endsHere⟩ := stands.answered answer
      obtain ⟨others, final, standsLast, endsLater⟩ := ih standsThen
      refine ⟨more ++ others, final, by simpa using standsLast, ?_⟩
      intro asked member
      rcases List.mem_append.1 member with early | late
      · obtain ⟨part, runs, isLast⟩ := endsHere asked early
        refine ⟨part, runs, fun last ends => ?_⟩
        rw [List.mem_singleton.1 (isLast last ends)]
        exact List.mem_cons_self
      · obtain ⟨part, runs, isLast⟩ := endsLater asked late
        exact ⟨part, runs, fun last ends => List.mem_cons_of_mem _ (isLast last ends)⟩

end Stands

end Parley.Program
