/-
Module: DecisionEval.Proofs.TemplateOffsets
Purpose: Parsing by byte offsets makes no check that fails, and gives what parsing by characters gives.
Main exports: Template.Scan.Passes, Template.Boundary, Template.Reaches, Template.SafeRound, Template.SafeOffsets,
  Template.safeOffsets
-/
import DecisionEval.Proofs.ByteSearch

namespace DecisionEval.Template

open Cel (CelError)

variable {π : Type} {limit base offset depth n start rest closing : Nat} {text : String} {mode : Mode} {c : Char}
variable {cs front back after : List Char} {compile : String → Outcome CelError π}

/-!
### The scan for a closing brace

The scan counts the brace that it looks for among the open ones, so that it stands at `depth + 1` where
`splitClosing` stands at `depth`. It leaves when the last of them is closed: before that one is always open.
-/

namespace Scan

/-- The states that a scan goes through while it reads characters. -/
inductive Passes (limit : Nat) : Scan → List Char → Scan → Prop where
  | refl (s : Scan) : Passes limit s [] s
  | step {s t u : Scan} {c : Char} {cs : List Char} :
      s.step limit c = .ok (some t) → Passes limit t cs u → Passes limit s (c :: cs) u

variable {s t : Scan}

/-- A character leaves a brace open if one was, or ends the scan. -/
theorem depth_pos_of_step (opened : 0 < s.depth) (stepped : s.step limit c = .ok (some t)) : 0 < t.depth := by
  unfold step at stepped
  split at stepped
  case h_1 quote inString =>
    repeat' split at stepped
    all_goals cases stepped
    all_goals exact opened
  case h_2 inCode =>
    split at stepped
    case isTrue => cases stepped; exact opened
    split at stepped
    case isTrue opens =>
      obtain ⟨depth, added, same⟩ := Breach.bind_eq_ok_iff.mp stepped
      cases same
      obtain ⟨-, rfl⟩ := add_eq_ok_iff.mp added
      exact Nat.succ_pos s.depth
    split at stepped
    case isTrue closes =>
      obtain ⟨depth, -, same⟩ := Breach.bind_eq_ok_iff.mp stepped
      split at same
      case isTrue => cases same
      case isFalse others =>
        cases same
        exact Nat.pos_of_ne_zero others
    case isFalse => cases stepped; exact opened

theorem Passes.depth_pos (passes : Passes limit s cs t) (opened : 0 < s.depth) : 0 < t.depth := by
  induction passes with
  | refl => exact opened
  | step stepped _ inductionHypothesis => exact inductionHypothesis (depth_pos_of_step opened stepped)

/-- The state that a scan has at a depth and in a mode. -/
def ofMode (depth : Nat) : Mode → Scan
  | .code => ⟨depth + 1, none, false⟩
  | .quoted quote => ⟨depth + 1, some quote, false⟩
  | .escaped quote => ⟨depth + 1, some quote, true⟩

theorem step_quote (isQuote : IsQuote c) :
    (ofMode depth .code).step limit c = .ok (some (ofMode depth (.quoted c))) :=
  if_pos isQuote

theorem step_open (room : depth + 2 < limit) :
    (ofMode depth .code).step limit '{' = .ok (some (ofMode (depth + 1) .code)) := by
  have room : depth + 1 + 1 < limit := room
  simp [step, ofMode, add, room]

theorem step_close : (ofMode (depth + 1) .code).step limit '}' = .ok (some (ofMode depth .code)) := by
  simp [step, ofMode, subtract]

theorem step_end : (ofMode 0 .code).step limit '}' = .ok none := by
  simp [step, ofMode, subtract]

theorem step_plain (noBrace : ¬IsBrace c) (noQuote : ¬IsQuote c) :
    (ofMode depth .code).step limit c = .ok (some (ofMode depth .code)) := by
  rw [IsQuote] at noQuote
  simp only [IsBrace, not_or] at noBrace
  simp only [step, ofMode, if_neg noQuote, if_neg noBrace.1, if_neg noBrace.2]

end Scan

/-- Where a scan that reads on finds its brace. -/
theorem closingFrom_keep {nextDepth : Nat} {next : Mode} {found : Option (List Char × List Char)}
    (stepped : (Scan.ofMode depth mode).step limit c = .ok (some (Scan.ofMode nextDepth next)))
    (later : closingFrom limit base (Scan.ofMode nextDepth next) (offset + c.utf8Size) cs =
      .ok (found.map fun parts => base + (offset + c.utf8Size) + Text.utf8Length parts.1)) :
    closingFrom limit base (Scan.ofMode depth mode) offset (c :: cs) =
      .ok ((splitClosing.keep c found).map fun parts => base + offset + Text.utf8Length parts.1) := by
  rw [closingFrom, stepped, Breach.ok_bind]
  change closingFrom limit base _ _ cs = _
  rw [later, splitClosing.keep, Option.map_map]
  congr 2
  funext parts
  simp only [Function.comp_apply, Text.utf8Length]
  omega

/-- The scan by offsets finds the brace that the scan among characters finds. No number that it makes is greater
than that of the bytes. -/
theorem closingFrom_eq (room : depth + 1 + cs.length < limit)
    (fits : base + offset + Text.utf8Length cs ≤ limit) :
    closingFrom limit base (Scan.ofMode depth mode) offset cs =
      .ok ((splitClosing depth mode cs).map fun found => base + offset + Text.utf8Length found.1) := by
  induction cs generalizing depth mode offset with
  | nil => rfl
  | cons c cs inductionHypothesis =>
      rw [List.length_cons] at room
      rw [Text.utf8Length] at fits
      -- Every case but the last brace goes on behind the character. The depth grows with characters alone, so that
      -- it stays below the limit as their number does.
      have later {nextDepth : Nat} {next : Mode} (bound : nextDepth ≤ depth + 1)
          (stepped : (Scan.ofMode depth mode).step limit c = .ok (some (Scan.ofMode nextDepth next))) :
          closingFrom limit base (Scan.ofMode depth mode) offset (c :: cs) =
            .ok ((splitClosing.keep c (splitClosing nextDepth next cs)).map
              fun found => base + offset + Text.utf8Length found.1) :=
        closingFrom_keep stepped (inductionHypothesis (by omega) (by omega))
      cases mode with
      | escaped quote => exact later (Nat.le_succ _) rfl
      | quoted quote =>
          rw [splitClosing]
          split
          case isTrue backslash => exact later (Nat.le_succ _) (by simp [Scan.step, Scan.ofMode, backslash])
          case isFalse noBackslash =>
            split
            case isTrue closes =>
              subst closes
              exact later (Nat.le_succ _) (by simp [Scan.step, Scan.ofMode, noBackslash])
            case isFalse stays =>
              exact later (Nat.le_succ _) (by simp [Scan.step, Scan.ofMode, noBackslash, stays])
      | code =>
          by_cases isQuote : IsQuote c
          · rw [splitClosing_quote isQuote]
            exact later (Nat.le_succ _) (Scan.step_quote isQuote)
          by_cases opens : c = '{'
          · subst opens
            rw [splitClosing_open]
            exact later (Nat.le_refl _) (Scan.step_open (by omega))
          by_cases closes : c = '}'
          · subst closes
            cases depth with
            | zero =>
                have brace : '}'.utf8Size = 1 := by decide
                rw [splitClosing_end, closingFrom, Scan.step_end, Breach.ok_bind, add, if_pos (by omega)]
                rfl
            | succ depth =>
                rw [splitClosing_close]
                exact later (by omega) Scan.step_close
          · have noBrace : ¬IsBrace c := fun brace => brace.elim opens closes
            rw [splitClosing_plain noBrace isQuote]
            exact later (Nat.le_succ _) (Scan.step_plain noBrace isQuote)

/-!
### The steps of a round
-/

theorem findClosing_eq (split : text.toList = front ++ after) (fits : text.utf8ByteSize < limit)
    (behind : 0 < Text.utf8Length front) :
    findClosing limit text (Text.utf8Length front) =
      .ok ((splitClosing 0 .code after).map fun found => Text.utf8Length (front ++ found.1)) := by
  have size : text.utf8ByteSize = Text.utf8Length front + Text.utf8Length after := by
    rw [Text.utf8ByteSize_eq, split, Text.utf8Length_append]
  have cut : slice text (Text.utf8Length front) text.utf8ByteSize = .ok after :=
    slice_eq_ok_iff.mpr ⟨front, [], by rw [split, List.append_nil], rfl, size⟩
  have characters := Text.length_le_utf8Length after
  have scan : closingFrom limit (Text.utf8Length front) (.ofMode 0 .code) 0 after = _ :=
    closingFrom_eq (by omega) (by omega)
  rw [findClosing, cut, Breach.ok_bind]
  simp only [Text.utf8Length_append]
  exact scan

theorem literalBetween_eq {literal : List Char} (split : text.toList = front ++ (literal ++ back)) :
    (literalBetween text (Text.utf8Length front) (Text.utf8Length (front ++ literal)) :
      Except Breach (List (Segment π))) = .ok (literalSegments literal) := by
  rw [literalBetween, literalSegments, Text.utf8Length_append]
  cases literal with
  | nil => simp [Text.utf8Length]
  | cons c literal =>
      have positive := c.utf8Size_pos
      rw [if_pos (by rw [Text.utf8Length]; omega), slice_eq_ok_iff.mpr ⟨front, back, split, rfl, rfl⟩]
      rfl

theorem utf8Length_append_opening {mark : Char} (marked : isMark mark = true) (front : List Char) :
    Text.utf8Length (front ++ [mark, '{']) = Text.utf8Length front + 2 := by
  have brace : '{'.utf8Size = 1 := by decide
  simp [Text.utf8Length, utf8Size_of_isMark marked, brace]

theorem utf8ByteSize_of_opening {mark : Char} (split : text.toList = front ++ mark :: '{' :: after)
    (marked : isMark mark = true) :
    text.utf8ByteSize = Text.utf8Length front + 2 + Text.utf8Length after := by
  have splitBehind : text.toList = (front ++ [mark, '{']) ++ after := by simp [split]
  rw [Text.utf8ByteSize_eq, splitBehind, Text.utf8Length_append, utf8Length_append_opening marked]

/-- The scan of a round starts two bytes behind the offset of its opening. -/
theorem findClosing_opening {mark : Char} (split : text.toList = front ++ mark :: '{' :: after)
    (marked : isMark mark = true) (fits : text.utf8ByteSize < limit) :
    add limit (Text.utf8Length front) 2 = .ok (Text.utf8Length front + 2) ∧
      findClosing limit text (Text.utf8Length front + 2) =
        .ok ((splitClosing 0 .code after).map fun found =>
          Text.utf8Length front + 2 + Text.utf8Length found.1) := by
  have size := utf8ByteSize_of_opening split marked
  have opening := utf8Length_append_opening marked front
  have splitBehind : text.toList = (front ++ [mark, '{']) ++ after := by simp [split]
  have scan := findClosing_eq splitBehind fits (by omega)
  simp only [Text.utf8Length_append _ (Prod.fst _), opening] at scan
  exact ⟨if_pos (by omega), scan⟩

theorem expressionAt_of_unclosed {mark : Char} (split : text.toList = front ++ mark :: '{' :: after)
    (marked : isMark mark = true) (unclosed : splitClosing 0 .code after = none)
    (fits : text.utf8ByteSize < limit) :
    expressionAt limit compile text (Text.utf8Length front) =
      .ok (.error (.invalidTemplate (Text.utf8Length front) .unterminated)) := by
  obtain ⟨bodyStart, scan⟩ := findClosing_opening split marked fits
  rw [expressionAt, bodyStart, Breach.ok_bind, scan, unclosed]
  rfl

theorem expressionAt_of_body {mark : Char} {body rest : List Char}
    (split : text.toList = front ++ mark :: '{' :: (body ++ '}' :: rest)) (marked : isMark mark = true)
    (grammatical : Body body) (fits : text.utf8ByteSize < limit) :
    expressionAt limit compile text (Text.utf8Length front) =
      .ok (segment compile (.body (Text.utf8Length front) mark body) >>= fun expression =>
        .ok (Text.utf8Length front + 2 + Text.utf8Length body + 1, expression)) := by
  obtain ⟨bodyStart, scan⟩ := findClosing_opening split marked fits
  have cut : slice text (Text.utf8Length front + 2) (Text.utf8Length front + 2 + Text.utf8Length body) = .ok body :=
    slice_eq_ok_iff.mpr ⟨front ++ [mark, '{'], '}' :: rest, by simp [split],
      (utf8Length_append_opening marked front).symm, rfl⟩
  have next : add limit (Text.utf8Length front + 2 + Text.utf8Length body) 1 =
      .ok (Text.utf8Length front + 2 + Text.utf8Length body + 1) := by
    have brace : '}'.utf8Size = 1 := by decide
    have size := utf8ByteSize_of_opening split marked
    rw [Text.utf8Length_append, Text.utf8Length] at size
    exact if_pos (by omega)
  rw [expressionAt, bodyStart, Breach.ok_bind, scan, splitClosing_of_body grammatical]
  simp only [Option.map_some, cut, next, Breach.ok_bind, Breach.pure_eq, segment]
  split
  case isTrue => rfl
  case isFalse => cases compile (String.ofList (Text.trimChars body)) <;> rfl

/-!
### Rounds
-/

theorem round_of_noOpening (split : text.toList = front ++ back) (plain : NoOpening back)
    (fits : text.utf8ByteSize < limit) :
    round limit compile text (Text.utf8Length front) = .ok (.ok (.finished (literalSegments back))) := by
  have whole : text.utf8ByteSize = Text.utf8Length (front ++ back) := by rw [Text.utf8ByteSize_eq, split]
  have last : text.toList = front ++ (back ++ []) := by rw [split, List.append_nil]
  have cut : literalBetween text (Text.utf8Length front) (Text.utf8Length (front ++ back)) =
      .ok (literalSegments back : List (Segment π)) := literalBetween_eq last
  rw [round, findOpening_eq split fits, splitOpening_of_noOpening plain, Breach.ok_bind]
  simp only [Option.map_none, whole, cut, Breach.ok_bind, Breach.pure_eq]

theorem round_of_unclosed {literal : List Char} {mark : Char}
    (split : text.toList = front ++ (literal ++ mark :: '{' :: after)) (plain : NoOpening literal)
    (marked : isMark mark = true) (unclosed : splitClosing 0 .code after = none)
    (fits : text.utf8ByteSize < limit) :
    round limit compile text (Text.utf8Length front) =
      .ok (.error (.invalidTemplate (Text.utf8Length (front ++ literal)) .unterminated)) := by
  have splitBehind : text.toList = (front ++ literal) ++ mark :: '{' :: after := by rw [split, List.append_assoc]
  rw [round, findOpening_eq split fits, splitOpening_append marked after plain, Breach.ok_bind]
  simp only [Option.map_some, literalBetween_eq split, Breach.ok_bind, Breach.pure_eq,
    expressionAt_of_unclosed splitBehind marked unclosed fits]

/-- A round that passes a part goes on behind it. -/
theorem round_of_part {part : Part} (split : text.toList = front ++ (part.chars ++ back)) (valid : part.Valid)
    (fits : text.utf8ByteSize < limit) :
    round limit compile text (Text.utf8Length front) =
      .ok (segment compile (.body (Text.utf8Length (front ++ part.literal)) part.mark part.body) >>=
        fun expression =>
          .ok (.onward (Text.utf8Length (front ++ part.chars)) (literalSegments part.literal ++ [expression]))) := by
  have splitOpened := split
  rw [part.chars_append] at splitOpened
  have splitBehind : text.toList =
      (front ++ part.literal) ++ part.mark :: '{' :: (part.body ++ '}' :: back) := by
    rw [splitOpened, List.append_assoc]
  have passed : Text.utf8Length (front ++ part.literal) + 2 + Text.utf8Length part.body + 1 =
      Text.utf8Length (front ++ part.chars) := by
    rw [Text.utf8Length_append, Text.utf8Length_append, Part.utf8Length_chars valid]
    omega
  rw [round, findOpening_eq splitOpened fits, splitOpening_append valid.mark _ valid.literal, Breach.ok_bind]
  simp only [Option.map_some, literalBetween_eq splitOpened, Breach.ok_bind, Breach.pure_eq,
    expressionAt_of_body splitBehind valid.mark valid.body fits, passed]
  cases segment compile (.body (Text.utf8Length (front ++ part.literal)) part.mark part.body) <;> rfl

/-- The segments of a part come before those of what follows it. -/
theorem mapM_part (part : Part) (later : List Piece) :
    (part.pieces offset ++ later).mapM (segment compile) =
      segment compile (.body (offset + Text.utf8Length part.literal) part.mark part.body) >>= fun expression =>
        later.mapM (segment compile) >>= fun more => .ok (literalSegments part.literal ++ expression :: more) := by
  rw [Part.pieces, List.append_assoc, List.mapM_append, mapM_textPiece, Outcome.ok_bind, List.singleton_append,
    List.mapM_cons]
  simp

/-- A text is a last literal, or a literal with an opening that nothing closes, or a part and another text. -/
theorem part_cases (cs : List Char) :
    NoOpening cs ∨
      (∃ literal mark after, NoOpening literal ∧ isMark mark = true ∧ splitClosing 0 .code after = none ∧
        cs = literal ++ mark :: '{' :: after) ∨
      ∃ part rest, Part.Valid part ∧ cs = part.chars ++ rest := by
  obtain ⟨parts, rest, valid, rfl, last⟩ := exists_front cs
  cases parts with
  | nil =>
      rcases last with plain | ⟨literal, mark, after, plain, marked, rfl, unclosed⟩
      · exact .inl plain
      · exact .inr (.inl ⟨literal, mark, after, plain, marked, unclosed, rfl⟩)
  | cons part parts =>
      exact .inr (.inr ⟨part, parts.flatMap Part.chars ++ rest, valid part List.mem_cons_self, by simp⟩)

/-- Every round passes three bytes at least, so that half as many rounds as there are bytes are enough, and the
segments are those of the pieces. -/
theorem roundsFrom_eq {rounds : Nat} (split : text.toList = front ++ back) (fits : text.utf8ByteSize < limit)
    (enough : Text.utf8Length back < 2 * rounds) (segments : List (Segment π)) :
    roundsFrom limit compile text rounds (Text.utf8Length front) segments =
      .ok ((piecesFrom (Text.utf8Length front) back).mapM (segment compile) >>= fun more =>
        .ok ⟨segments ++ more⟩) := by
  induction rounds generalizing front back segments with
  | zero => exact absurd enough (Nat.not_lt_zero _)
  | succ rounds inductionHypothesis =>
      rw [roundsFrom]
      rcases part_cases back with
        plain | ⟨literal, mark, after, plain, marked, unclosed, rfl⟩ | ⟨part, rest, valid, rfl⟩
      · rw [round_of_noOpening split plain fits, piecesFrom_of_noOpening plain, mapM_textPiece]
        rfl
      · rw [round_of_unclosed split plain marked unclosed fits, piecesFrom_unclosed plain marked unclosed,
          mapM_literal_cons_error rfl, Text.utf8Length_append]
        rfl
      · have splitBehind : text.toList = (front ++ part.chars) ++ rest := by rw [split, List.append_assoc]
        -- A part has three bytes at least, so that one round less is enough for what stands behind it.
        have size := Part.utf8Length_chars valid
        have onward := inductionHypothesis splitBehind (by rw [Text.utf8Length_append] at enough; omega)
        rw [round_of_part split valid fits, piecesFrom_part valid, mapM_part, ← Text.utf8Length_append,
          ← Text.utf8Length_append]
        cases segment compile (.body (Text.utf8Length (front ++ part.literal)) part.mark part.body) with
        | error cause => rfl
        | fault => rfl
        | ok expression =>
            simp only [Outcome.ok_bind, Breach.ok_bind, onward]
            rw [bind_assoc]
            simp

theorem parseByOffsets_eq {rounds : Nat} (fits : text.utf8ByteSize < limit)
    (enough : text.utf8ByteSize / 2 < rounds) :
    parseByOffsets limit compile rounds text = .ok (parseWith compile text) := by
  have bytes : Text.utf8Length text.toList < 2 * rounds := by
    rw [← Text.utf8ByteSize_eq]
    omega
  have split : text.toList = [] ++ text.toList := rfl
  exact roundsFrom_eq split fits bytes []

/-!
### Offsets on the way
-/

/-- An offset at which a text falls apart into two texts. -/
structure Boundary (text : String) (offset : Nat) : Prop where
  le_size : offset ≤ text.utf8ByteSize
  between : ∃ front back : String, text = front ++ back ∧ front.utf8ByteSize = offset

theorem boundary_iff : Boundary text offset ↔
    ∃ front back, text.toList = front ++ back ∧ Text.utf8Length front = offset := by
  constructor
  · rintro ⟨-, front, back, rfl, rfl⟩
    exact ⟨front.toList, back.toList, String.toList_append, (Text.utf8ByteSize_eq front).symm⟩
  · rintro ⟨front, back, split, rfl⟩
    refine ⟨?_, String.ofList front, String.ofList back, ?_, Text.utf8ByteSize_ofList front⟩
    · rw [Text.utf8ByteSize_eq, split, Text.utf8Length_append]
      exact Nat.le_add_right ..
    · rw [← String.ofList_append, ← split, String.ofList_toList]

/-- The offsets that a parse comes to, with the number of rounds that are behind it. -/
inductive Reaches (limit : Nat) (compile : String → Outcome CelError π) (text : String) : (n rest : Nat) → Prop where
  | start : Reaches limit compile text 0 0
  | onward {n rest next : Nat} {segments : List (Segment π)} :
      Reaches limit compile text n rest →
      round limit compile text rest = .ok (.ok (.onward next segments)) → Reaches limit compile text (n + 1) next

/-- What a round goes by, after `n` rounds, from the offset `rest` on. No check fails; the opening stands behind
`rest`, its body behind the opening, and the closing brace behind the body; every one of these offsets lies
between two characters of the text; and the rounds that come to an opening are no more than half the bytes. -/
structure SafeRound (limit : Nat) (compile : String → Outcome CelError π) (text : String) (n rest : Nat) : Prop where
  boundary : Boundary text rest
  done : ∃ outcome, round limit compile text rest = .ok outcome
  searched : ∃ found, findOpening limit text rest = .ok found
  opening : ∀ start, findOpening limit text rest = .ok (some start) →
    rest ≤ start ∧ Boundary text start ∧ Boundary text (start + 2) ∧ n + 1 ≤ text.utf8ByteSize / 2 ∧
      ∃ found, findClosing limit text (start + 2) = .ok found
  closing : ∀ start closing, findOpening limit text rest = .ok (some start) →
    findClosing limit text (start + 2) = .ok (some closing) →
      start + 2 ≤ closing ∧ Boundary text closing ∧ Boundary text (closing + 1)
  onward : ∀ next segments, round limit compile text rest = .ok (.ok (.onward next segments)) →
    ∃ start closing, findOpening limit text rest = .ok (some start) ∧
      findClosing limit text (start + 2) = .ok (some closing) ∧ next = closing + 1

theorem boundary_of_split (split : text.toList = front ++ back) : Boundary text (Text.utf8Length front) :=
  boundary_iff.mpr ⟨front, back, split, rfl⟩

theorem round_done (split : text.toList = front ++ back) (fits : text.utf8ByteSize < limit) :
    ∃ outcome, round limit compile text (Text.utf8Length front) = .ok outcome := by
  rcases part_cases back with
    plain | ⟨literal, mark, after, plain, marked, unclosed, rfl⟩ | ⟨part, rest, valid, rfl⟩
  · exact ⟨_, round_of_noOpening split plain fits⟩
  · exact ⟨_, round_of_unclosed split plain marked unclosed fits⟩
  · exact ⟨_, round_of_part split valid fits⟩

/-- A round that is not the last one passes a part. -/
theorem exists_part_of_onward {next : Nat} {segments : List (Segment π)} (split : text.toList = front ++ back)
    (fits : text.utf8ByteSize < limit)
    (onward : round limit compile text (Text.utf8Length front) = .ok (.ok (.onward next segments))) :
    ∃ part rest, Part.Valid part ∧ back = part.chars ++ rest ∧ next = Text.utf8Length (front ++ part.chars) := by
  rcases part_cases back with
    plain | ⟨literal, mark, after, plain, marked, unclosed, rfl⟩ | ⟨part, rest, valid, rfl⟩
  · rw [round_of_noOpening split plain fits] at onward
    cases onward
  · rw [round_of_unclosed split plain marked unclosed fits] at onward
    cases onward
  · rw [round_of_part split valid fits] at onward
    obtain ⟨expression, -, same⟩ := Outcome.bind_eq_ok_iff.mp (Except.ok.inj onward)
    cases same
    exact ⟨part, rest, valid, rfl, rfl⟩

/-- What holds of every offset that a parse comes to: it follows characters of the text, and three bytes for every
round. -/
theorem Reaches.exists_split {n rest : Nat} (reaches : Reaches limit compile text n rest)
    (fits : text.utf8ByteSize < limit) :
    ∃ front back, text.toList = front ++ back ∧ Text.utf8Length front = rest ∧ 3 * n ≤ rest := by
  induction reaches with
  | start => exact ⟨[], text.toList, rfl, rfl, Nat.le_refl 0⟩
  | onward _ onward inductionHypothesis =>
      obtain ⟨front, back, split, rfl, passed⟩ := inductionHypothesis
      obtain ⟨part, rest, valid, rfl, rfl⟩ := exists_part_of_onward split fits onward
      refine ⟨front ++ part.chars, rest, by rw [split, List.append_assoc], rfl, ?_⟩
      rw [Text.utf8Length_append, Part.utf8Length_chars valid]
      omega

/-- An offset that is found is that of an opening. -/
theorem exists_opening (split : text.toList = front ++ back) (fits : text.utf8ByteSize < limit)
    (found : findOpening limit text (Text.utf8Length front) = .ok (some start)) :
    ∃ literal mark after, isMark mark = true ∧ text.toList = (front ++ literal) ++ mark :: '{' :: after ∧
      Text.utf8Length (front ++ literal) = start := by
  rw [findOpening_eq split fits] at found
  rcases splitOpening_cases back with ⟨-, scan⟩ | ⟨literal, mark, after, plain, marked, rfl, scan⟩
  · rw [scan] at found
    cases found
  · rw [scan] at found
    cases found
    exact ⟨literal, mark, after, marked, by rw [split, List.append_assoc], rfl⟩

theorem boundary_behind_opening {mark : Char} (split : text.toList = front ++ mark :: '{' :: after)
    (marked : isMark mark = true) : Boundary text (Text.utf8Length front + 2) :=
  boundary_iff.mpr ⟨front ++ [mark, '{'], after, by simp [split], utf8Length_append_opening marked front⟩

/-- The offsets of a closing brace and behind it. -/
theorem boundary_around_closing {mark : Char} {body rest : List Char}
    (split : text.toList = front ++ mark :: '{' :: (body ++ '}' :: rest)) (marked : isMark mark = true) :
    Boundary text (Text.utf8Length front + 2 + Text.utf8Length body) ∧
      Boundary text (Text.utf8Length front + 2 + Text.utf8Length body + 1) := by
  have brace : '}'.utf8Size = 1 := by decide
  have bodyEnd : Text.utf8Length (front ++ [mark, '{'] ++ body) =
      Text.utf8Length front + 2 + Text.utf8Length body := by
    rw [Text.utf8Length_append, utf8Length_append_opening marked]
  constructor <;> rw [boundary_iff]
  · exact ⟨front ++ [mark, '{'] ++ body, '}' :: rest, by simp [split], bodyEnd⟩
  · refine ⟨front ++ [mark, '{'] ++ body ++ ['}'], rest, by simp [split], ?_⟩
    rw [Text.utf8Length_append, bodyEnd, Text.utf8Length, Text.utf8Length, brace]

theorem safeRound_of_split (split : text.toList = front ++ back) (fits : text.utf8ByteSize < limit)
    (passed : 3 * n ≤ Text.utf8Length front) : SafeRound limit compile text n (Text.utf8Length front) where
  boundary := boundary_of_split split
  done := round_done split fits
  searched := ⟨_, findOpening_eq split fits⟩
  opening start found := by
    obtain ⟨literal, mark, after, marked, split, rfl⟩ := exists_opening split fits found
    -- The two bytes of the opening come behind three for each of the rounds before.
    have behind := boundary_behind_opening split marked
    have size := behind.le_size
    rw [Text.utf8Length_append] at size
    refine ⟨?_, boundary_of_split split, behind, by omega, _, (findClosing_opening split marked fits).2⟩
    rw [Text.utf8Length_append]
    exact Nat.le_add_right ..
  closing start closing found scanned := by
    obtain ⟨literal, mark, after, marked, split, rfl⟩ := exists_opening split fits found
    rw [(findClosing_opening split marked fits).2] at scanned
    obtain ⟨⟨body, rest⟩, closed, rfl⟩ := Option.map_eq_some_iff.mp (Except.ok.inj scanned)
    obtain ⟨-, rfl⟩ := closedBy_iff.mpr closed
    exact ⟨Nat.le_add_right .., boundary_around_closing split marked⟩
  onward next segments onward := by
    obtain ⟨part, rest, valid, rfl, rfl⟩ := exists_part_of_onward split fits onward
    rw [part.chars_append] at split
    have found : findOpening limit text (Text.utf8Length front) =
        .ok (some (Text.utf8Length (front ++ part.literal))) := by
      rw [findOpening_eq split fits, splitOpening_append valid.mark _ valid.literal]
      rfl
    rw [← List.append_assoc] at split
    have scanned := (findClosing_opening split valid.mark fits).2
    rw [splitClosing_of_body valid.body, Option.map_some] at scanned
    refine ⟨_, _, found, scanned, ?_⟩
    simp only [Text.utf8Length_append, Part.utf8Length_chars valid]
    omega

/-!
### Parses
-/

/-- The only thing that stops a parse is a compiler that stops. -/
theorem exists_fault_of_parseWith (stopped : parseWith compile text = .fault) :
    ∃ offset mark chars, Piece.body offset mark chars ∈ pieces text ∧
      compile (String.ofList (Text.trimChars chars)) = .fault := by
  rcases Outcome.bind_eq_fault_iff.mp stopped with fault | ⟨segments, -, done⟩
  · obtain ⟨piece, member, fault⟩ := Outcome.exists_fault_of_mapM fault
    cases piece with
    | text chars => cases fault
    | unclosed offset mark chars => cases fault
    | body offset mark chars =>
        refine ⟨offset, mark, chars, member, ?_⟩
        rw [segment] at fault
        split at fault
        case isTrue => cases fault
        case isFalse =>
          rcases Outcome.bind_eq_fault_iff.mp fault with fault | ⟨program, -, done⟩
          · exact fault
          · cases done
  · cases done

/-- A parse by byte offsets, on a machine whose numbers are below `limit`.

* `rounds`: the offsets of every round are valid.
* `depth`: a brace is open in every state of a scan, so that none is closed too much.
* `result`: a number of rounds above half the bytes is enough, no check fails, and the outcome is that of the
  parse by characters.
* `fault`: if that parse is stopped, the compiler stops at one of the bodies. -/
structure SafeOffsets (limit : Nat) (compile : String → Outcome CelError π) (text : String) : Prop where
  rounds : ∀ n rest, Reaches limit compile text n rest → SafeRound limit compile text n rest
  depth : ∀ (cs : List Char) (s : Scan), Scan.Passes limit .start cs s → 1 ≤ s.depth
  result : ∀ rounds, text.utf8ByteSize / 2 < rounds →
    parseByOffsets limit compile rounds text = .ok (parseWith compile text)
  fault : parseWith compile text = .fault → ∃ offset mark chars, Piece.body offset mark chars ∈ pieces text ∧
    compile (String.ofList (Text.trimChars chars)) = .fault

/-- The offsets of a parse are valid for every text. A text that a machine holds has a length among its numbers,
which is all that is asked of it. -/
theorem safeOffsets (compile : String → Outcome CelError π) (fits : text.utf8ByteSize < limit) :
    SafeOffsets limit compile text where
  rounds n rest reaches := by
    obtain ⟨front, back, split, rfl, passed⟩ := reaches.exists_split fits
    exact safeRound_of_split split fits passed
  depth _ _ passes := passes.depth_pos Nat.one_pos
  result _ enough := parseByOffsets_eq fits enough
  fault := exists_fault_of_parseWith

theorem safeOffsets_accented :
    "é${a}$".utf8ByteSize < UInt64.size ∧
      SafeOffsets UInt64.size (fun source => (.ok source : Outcome CelError String)) "é${a}$" :=
  ⟨by decide, safeOffsets _ (by decide)⟩

end DecisionEval.Template
