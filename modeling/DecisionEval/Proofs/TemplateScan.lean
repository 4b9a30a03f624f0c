/-
Module: DecisionEval.Proofs.TemplateScan
Purpose: The two scans of a template against its grammar: where a literal ends, and where a body ends.
Main exports: Template.splitOpening_cases, Template.splitOpening_append, Template.splitClosing_eq_some_iff
-/
import DecisionEval.Template.Grammar

namespace DecisionEval.Template

/-!
### Openings

An opening is two characters wide, and its first character is no brace. So an opening that follows a
literal never begins inside of it, and the first opening of a text is the one that ends its first literal.
-/

theorem noOpening_nil : NoOpening [] := by
  intro before after mark split
  simp at split

theorem noOpening_singleton (c : Char) : NoOpening [c] := by
  intro before after mark split
  have lengths := congrArg List.length split
  simp only [List.length_cons, List.length_nil, List.length_append] at lengths
  omega

theorem noOpening_cons_cons_iff {c next : Char} {rest : List Char} :
    NoOpening (c :: next :: rest) ↔ (isMark c && next == '{') = false ∧ NoOpening (next :: rest) := by
  constructor
  · intro plain
    constructor
    · by_cases brace : next = '{'
      · subst brace
        have unmarked := plain [] rest c rfl
        simp [unmarked]
      · simp [brace]
    · intro before after mark split
      exact plain (c :: before) after mark (by rw [split, List.cons_append])
  · rintro ⟨first, plain⟩ before after mark split
    cases before with
    | nil =>
        simp only [List.nil_append, List.cons.injEq] at split
        obtain ⟨rfl, rfl, rfl⟩ := split
        simpa using first
    | cons head before =>
        rw [List.cons_append, List.cons.injEq] at split
        exact plain before after mark split.2

theorem ne_brace_of_isMark {mark : Char} (marked : isMark mark = true) : mark ≠ '{' := by
  rintro rfl
  exact absurd marked (by decide)

theorem splitOpening_of_noOpening : ∀ {cs : List Char}, NoOpening cs → splitOpening cs = (cs, none)
  | [], _ => rfl
  | [_], _ => rfl
  | c :: next :: rest, plain => by
      obtain ⟨first, later⟩ := noOpening_cons_cons_iff.mp plain
      rw [splitOpening, if_neg (by simp [first]), splitOpening_of_noOpening later]

/-- The first opening of a text is the one that ends the first literal. -/
theorem splitOpening_append {mark : Char} (marked : isMark mark = true) (rest : List Char) :
    ∀ {before : List Char}, NoOpening before →
      splitOpening (before ++ mark :: '{' :: rest) = (before, some (mark, rest))
  | [], _ => by simp [splitOpening, marked]
  | [c], _ => by
      have skipped : ¬(isMark c && mark == '{') = true := by simp [ne_brace_of_isMark marked]
      simp only [List.cons_append, List.nil_append]
      rw [splitOpening, if_neg skipped]
      simp [splitOpening, marked]
  | c :: next :: before, plain => by
      obtain ⟨first, later⟩ := noOpening_cons_cons_iff.mp plain
      have found := splitOpening_append marked rest later
      rw [List.cons_append] at found
      rw [List.cons_append, List.cons_append, splitOpening, if_neg (by simp [first]), found]

/-- A text has no opening, or a literal without one and then its first opening. -/
theorem splitOpening_cases : ∀ cs : List Char,
    (NoOpening cs ∧ splitOpening cs = (cs, none)) ∨
      ∃ before mark rest, NoOpening before ∧ isMark mark = true ∧ cs = before ++ mark :: '{' :: rest ∧
        splitOpening cs = (before, some (mark, rest))
  | [] => Or.inl ⟨noOpening_nil, rfl⟩
  | [c] => Or.inl ⟨noOpening_singleton c, rfl⟩
  | c :: next :: rest => by
      cases first : isMark c && next == '{' with
      | true =>
          obtain ⟨marked, brace⟩ := Bool.and_eq_true_iff.mp first
          obtain rfl := eq_of_beq brace
          exact Or.inr ⟨[], c, rest, noOpening_nil, marked, rfl,
            splitOpening_append marked rest noOpening_nil⟩
      | false =>
          rcases splitOpening_cases (next :: rest) with
            ⟨plain, -⟩ | ⟨before, mark, after, plain, marked, split, -⟩
          · have plain := noOpening_cons_cons_iff.mpr ⟨first, plain⟩
            exact Or.inl ⟨plain, splitOpening_of_noOpening plain⟩
          · have plain : NoOpening (c :: before) := by
              cases before with
              | nil => exact noOpening_singleton c
              | cons head before =>
                  obtain ⟨rfl, -⟩ := List.cons.inj split
                  exact noOpening_cons_cons_iff.mpr ⟨first, plain⟩
            refine Or.inr ⟨c :: before, mark, after, plain, marked, by rw [split, List.cons_append], ?_⟩
            rw [split, ← List.cons_append]
            exact splitOpening_append marked after plain

theorem noOpening_iff {cs : List Char} : NoOpening cs ↔ (splitOpening cs).2 = none := by
  constructor
  · intro plain
    rw [splitOpening_of_noOpening plain]
  · intro vacant
    rcases splitOpening_cases cs with ⟨plain, -⟩ | ⟨before, mark, rest, -, -, -, found⟩
    · exact plain
    · rw [found] at vacant
      cases vacant

instance (cs : List Char) : Decidable (NoOpening cs) := decidable_of_iff _ noOpening_iff.symm

/-!
### Bodies are skipped

A scan passes over a body, or over the rest of a string, without a change of its depth, whatever follows.
-/

/-- What a scan finds after `front`, with `front` put before the body. -/
def prepend (front : List Char) (found : Option (List Char × List Char)) :
    Option (List Char × List Char) :=
  found.map fun (body, rest) => (front ++ body, rest)

@[simp] theorem prepend_nil (found : Option (List Char × List Char)) : prepend [] found = found := by
  cases found <;> rfl

@[simp] theorem keep_prepend (c : Char) (front : List Char) (found : Option (List Char × List Char)) :
    splitClosing.keep c (prepend front found) = prepend (c :: front) found := by
  cases found <;> rfl

@[simp] theorem prepend_prepend (front middle : List Char) (found : Option (List Char × List Char)) :
    prepend front (prepend middle found) = prepend (front ++ middle) found := by
  cases found <;> simp [prepend]

theorem keep_eq_prepend (c : Char) (found : Option (List Char × List Char)) :
    splitClosing.keep c found = prepend [c] found := by
  cases found <;> rfl

variable {depth : Nat} {quote c : Char} {cs body rest tail : List Char}

theorem ne_backslash_of_isQuote (isQuote : IsQuote quote) : quote ≠ '\\' := by
  rintro rfl
  rcases isQuote with same | same <;> exact absurd same (by decide)

theorem splitClosing_plain (noBrace : ¬IsBrace c) (noQuote : ¬IsQuote c) :
    splitClosing depth .code (c :: cs) = splitClosing.keep c (splitClosing depth .code cs) := by
  rw [IsQuote] at noQuote
  simp only [IsBrace, not_or] at noBrace
  simp only [splitClosing, if_neg noQuote, if_neg noBrace.1, if_neg noBrace.2]

theorem splitClosing_quote (isQuote : IsQuote c) :
    splitClosing depth .code (c :: cs) = splitClosing.keep c (splitClosing depth (.quoted c) cs) := by
  rw [IsQuote] at isQuote
  simp only [splitClosing, if_pos isQuote]

theorem splitClosing_open :
    splitClosing depth .code ('{' :: cs) =
      splitClosing.keep '{' (splitClosing (depth + 1) .code cs) := by
  simp [splitClosing]

theorem splitClosing_close :
    splitClosing (depth + 1) .code ('}' :: cs) = splitClosing.keep '}' (splitClosing depth .code cs) := by
  simp [splitClosing]

theorem splitClosing_end : splitClosing 0 .code ('}' :: cs) = some ([], cs) := by
  simp [splitClosing]

theorem splitClosing_quoted_append (isQuote : IsQuote quote) (string : QuotedRest quote cs) :
    splitClosing depth (.quoted quote) (cs ++ tail) = prepend cs (splitClosing depth .code tail) := by
  induction string with
  | close =>
      simp [splitClosing, ne_backslash_of_isQuote isQuote, keep_eq_prepend]
  | plain noQuote noBackslash _ inductionHypothesis =>
      rw [List.cons_append, splitClosing, if_neg noBackslash, if_neg noQuote, inductionHypothesis,
        keep_prepend]
  | escape _ inductionHypothesis =>
      rw [List.cons_append, List.cons_append, splitClosing, if_pos rfl, splitClosing,
        inductionHypothesis, keep_prepend, keep_prepend]

theorem splitClosing_body_append (grammatical : Body cs) :
    splitClosing depth .code (cs ++ tail) = prepend cs (splitClosing depth .code tail) := by
  induction grammatical generalizing depth tail with
  | nil => rw [List.nil_append, prepend_nil]
  | plain noBrace noQuote _ inductionHypothesis =>
      rw [List.cons_append, splitClosing_plain noBrace noQuote, inductionHypothesis, keep_prepend]
  | string isQuote string _ inductionHypothesis =>
      rw [List.cons_append, List.append_assoc, splitClosing_quote isQuote,
        splitClosing_quoted_append isQuote string, inductionHypothesis, prepend_prepend, keep_prepend]
  | braces _ _ innerHypothesis outerHypothesis =>
      rw [List.cons_append, List.append_assoc, splitClosing_open, innerHypothesis, List.cons_append,
        splitClosing_close, outerHypothesis, keep_prepend, keep_prepend, prepend_prepend,
        List.cons_append]

theorem splitClosing_of_body (grammatical : Body body) (rest : List Char) :
    splitClosing 0 .code (body ++ '}' :: rest) = some (body, rest) := by
  rw [splitClosing_body_append grammatical, splitClosing_end]
  simp [prepend]

/-!
### What is found is a body

While `depth` braces are open, what the scan has still to pass over is a body for each of them and one
more, with closing braces in between.
-/

/-- The rest of a body in which `depth` braces are open. -/
inductive Closing : Nat → List Char → Prop where
  | body {cs : List Char} : Body cs → Closing 0 cs
  | brace {depth : Nat} {inner outer : List Char} :
      Body inner → Closing depth outer → Closing (depth + 1) (inner ++ '}' :: outer)

namespace Closing

theorem nil : Closing 0 [] := .body .nil

theorem plain (noBrace : ¬IsBrace c) (noQuote : ¬IsQuote c) (closing : Closing depth cs) :
    Closing depth (c :: cs) := by
  cases closing with
  | body grammatical => exact .body (.plain noBrace noQuote grammatical)
  | brace grammatical outer => exact .brace (.plain noBrace noQuote grammatical) outer

theorem string {quoted : List Char} (isQuote : IsQuote quote) (string : QuotedRest quote quoted)
    (closing : Closing depth cs) : Closing depth (quote :: (quoted ++ cs)) := by
  cases closing with
  | body grammatical => exact .body (.string isQuote string grammatical)
  | brace grammatical outer =>
      have whole := Closing.brace (.string isQuote string grammatical) outer
      rwa [List.cons_append, List.append_assoc] at whole

/-- A brace that is opened is one more to be closed. -/
theorem opened (closing : Closing (depth + 1) cs) : Closing depth ('{' :: cs) := by
  cases closing with
  | brace grammatical outer =>
      cases outer with
      | body outerBody => exact .body (.braces grammatical outerBody)
      | brace outerBody later =>
          have whole := Closing.brace (.braces grammatical outerBody) later
          rwa [List.cons_append, List.append_assoc, List.cons_append] at whole

theorem closed (closing : Closing depth cs) : Closing (depth + 1) ('}' :: cs) := .brace .nil closing

end Closing

/-- The rest of a body from where a scan stands. -/
def Completes (depth : Nat) : Mode → List Char → Prop
  | .code, cs => Closing depth cs
  | .quoted quote, cs => ∃ quoted later, QuotedRest quote quoted ∧ Closing depth later ∧ cs = quoted ++ later
  | .escaped quote, cs =>
    ∃ c quoted later, QuotedRest quote quoted ∧ Closing depth later ∧ cs = c :: (quoted ++ later)

theorem keep_eq_some_iff {found : Option (List Char × List Char)} :
    splitClosing.keep c found = some (body, rest) ↔
      ∃ inner, found = some (inner, rest) ∧ body = c :: inner := by
  cases found with
  | none => simp [splitClosing.keep]
  | some pair =>
      obtain ⟨inner, after⟩ := pair
      simp only [splitClosing.keep, Option.map_some, Option.some.injEq, Prod.mk.injEq]
      constructor
      · rintro ⟨rfl, rfl⟩
        exact ⟨inner, ⟨rfl, rfl⟩, rfl⟩
      · rintro ⟨_, ⟨rfl, rfl⟩, rfl⟩
        exact ⟨rfl, rfl⟩

/-- What a scan gives is the text without one brace, and the part before that brace is what the grammar
expects from where the scan stood. -/
theorem splitClosing_sound {mode : Mode} (found : splitClosing depth mode cs = some (body, rest)) :
    cs = body ++ '}' :: rest ∧ Completes depth mode body := by
  induction cs generalizing depth mode body with
  | nil => simp [splitClosing] at found
  | cons c cs inductionHypothesis =>
      -- Every case but the last brace keeps the character and goes on in the mode that the case names.
      have later {nextDepth : Nat} {next : Mode}
          (kept : splitClosing.keep c (splitClosing nextDepth next cs) = some (body, rest)) :
          ∃ inner, body = c :: inner ∧ c :: cs = body ++ '}' :: rest ∧ Completes nextDepth next inner := by
        obtain ⟨inner, foundLater, rfl⟩ := keep_eq_some_iff.mp kept
        obtain ⟨rfl, completes⟩ := inductionHypothesis foundLater
        exact ⟨inner, rfl, rfl, completes⟩
      cases mode with
      | escaped quote =>
          rw [splitClosing] at found
          obtain ⟨inner, rfl, split, quoted, after, string, closing, rfl⟩ := later found
          exact ⟨split, c, quoted, after, string, closing, rfl⟩
      | quoted quote =>
          rw [splitClosing] at found
          by_cases backslash : c = '\\'
          · rw [if_pos backslash] at found
            obtain ⟨inner, rfl, split, hidden, quoted, after, string, closing, rfl⟩ := later found
            subst backslash
            exact ⟨split, '\\' :: hidden :: quoted, after, .escape string, closing, rfl⟩
          rw [if_neg backslash] at found
          by_cases closes : c = quote
          · rw [if_pos closes] at found
            obtain ⟨inner, rfl, split, closing⟩ := later found
            subst closes
            exact ⟨split, [c], inner, .close, closing, rfl⟩
          · rw [if_neg closes] at found
            obtain ⟨inner, rfl, split, quoted, after, string, closing, rfl⟩ := later found
            exact ⟨split, c :: quoted, after, .plain closes backslash string, closing, rfl⟩
      | code =>
          by_cases isQuote : IsQuote c
          · rw [splitClosing_quote isQuote] at found
            obtain ⟨inner, rfl, split, quoted, after, string, closing, rfl⟩ := later found
            exact ⟨split, closing.string isQuote string⟩
          by_cases opens : c = '{'
          · subst opens
            rw [splitClosing_open] at found
            obtain ⟨inner, rfl, split, closing⟩ := later found
            exact ⟨split, Closing.opened closing⟩
          by_cases closes : c = '}'
          · subst closes
            cases depth with
            | zero =>
                rw [splitClosing_end] at found
                cases found
                exact ⟨rfl, .nil⟩
            | succ depth =>
                rw [splitClosing_close] at found
                obtain ⟨inner, rfl, split, closing⟩ := later found
                exact ⟨split, Closing.closed closing⟩
          · have noBrace : ¬IsBrace c := fun brace => brace.elim opens closes
            rw [splitClosing_plain noBrace isQuote] at found
            obtain ⟨inner, rfl, split, closing⟩ := later found
            exact ⟨split, Closing.plain noBrace isQuote closing⟩

/-- The scan for the closing brace finds a body of the grammar, and every such body. -/
theorem splitClosing_eq_some_iff :
    splitClosing 0 .code cs = some (body, rest) ↔ Body body ∧ cs = body ++ '}' :: rest := by
  constructor
  · intro found
    obtain ⟨split, closing⟩ := splitClosing_sound found
    cases closing with
    | body grammatical => exact ⟨grammatical, split⟩
  · rintro ⟨grammatical, rfl⟩
    exact splitClosing_of_body grammatical rest

theorem body_iff : Body cs ↔ splitClosing 0 .code (cs ++ ['}']) = some (cs, []) := by
  rw [splitClosing_eq_some_iff]
  exact ⟨fun grammatical => ⟨grammatical, rfl⟩, And.left⟩

instance (cs : List Char) : Decidable (Body cs) := decidable_of_iff _ body_iff.symm

end DecisionEval.Template
