import Mathlib
import PropCalc.Proofs.Lexing

namespace PropCalc

namespace LexRule

/-- A rule reads no further than its match: cutting the text anywhere after the match leaves the
match as it is, and cutting a text the rule does not match leaves it unmatched. -/
def Truncates (munch : List Char → Nat) : Prop :=
  ∀ cs m, munch cs ≤ m → munch (cs.take m) = munch cs

theorem truncates_blanks : Truncates blanks := by
  intro cs m hm
  unfold blanks at hm ⊢
  induction cs generalizing m with
  | nil => rw [List.take_nil]
  | cons x xs ih =>
    rw [List.takeWhile_cons] at hm ⊢
    cases m with
    | zero =>
      split_ifs at hm with hx
      · simp at hm
      · simp [hx]
    | succ m =>
      rw [List.take_succ_cons, List.takeWhile_cons]
      split_ifs at hm ⊢ with hx
      · simp only [List.length_cons] at hm ⊢
        rw [ih m (by omega)]
      · rfl

theorem truncates_exact (s : String) : Truncates (exact s) := by
  intro cs m hm
  simp only [exact, beq_iff_eq, List.take_take] at hm ⊢
  by_cases h : cs.take s.length = s.toList
  · have hle : s.length ≤ m := by simpa [h] using hm
    rw [Nat.min_eq_left hle]
  · -- a cut shorter than `s` cannot spell it
    have hcut : cs.take (min s.length m) ≠ s.toList := by
      intro he
      by_cases hle : s.length ≤ m
      · exact h (by rwa [Nat.min_eq_left hle] at he)
      · have hlen := congrArg List.length he
        simp only [List.length_take, String.length_toList] at hlen
        omega
    rw [if_neg hcut, if_neg h]

theorem truncates_oneOf (set : List Char) : Truncates (oneOf set) := by
  intro cs m hm
  cases cs with
  | nil => rw [List.take_nil]
  | cons c r =>
    cases m with
    | zero =>
      rw [List.take_zero]
      exact (Nat.le_zero.mp hm).symm
    | succ m => rfl

theorem truncates_letter : Truncates letter := by
  intro cs m hm
  cases cs with
  | nil => rw [List.take_nil]
  | cons c r =>
    cases m with
    | zero =>
      rw [List.take_zero]
      exact (Nat.le_zero.mp hm).symm
    | succ m => rfl

end LexRule

namespace Lexer

variable {τ : Type}

theorem firstMatch_eq_some_iff {rules : List (LexRule τ)} {cs : List Char} {n : Nat} {hn : 0 < n}
    {tag : Option τ} :
    firstMatch rules cs = some (⟨n, hn⟩, tag) ↔
      ∃ pre r post, rules = pre ++ r :: post ∧ r.munch cs = n ∧ r.tag = tag ∧
        ∀ r' ∈ pre, r'.munch cs = 0 := by
  unfold firstMatch
  rw [List.findSome?_eq_some_iff]
  constructor
  · rintro ⟨pre, r, post, rfl, hr, hpre⟩
    refine ⟨pre, r, post, rfl, ?_, ?_, fun r' hr' => ?_⟩
    · by_cases h : 0 < r.munch cs <;> simp_all
    · by_cases h : 0 < r.munch cs <;> simp_all
    · have := hpre r' hr'
      by_cases h : 0 < r'.munch cs <;> simp_all
  · rintro ⟨pre, r, post, rfl, hr, htag, hpre⟩
    refine ⟨pre, r, post, rfl, ?_, fun r' hr' => ?_⟩
    · subst hr htag
      simp [hn]
    · simp [hpre r' hr']

theorem firstMatch_cons (r : LexRule τ) (rules : List (LexRule τ)) (cs : List Char) :
    firstMatch (r :: rules) cs =
      if h : 0 < r.munch cs then some (⟨r.munch cs, h⟩, r.tag) else firstMatch rules cs := by
  unfold firstMatch
  rw [List.findSome?_cons]
  by_cases h : 0 < r.munch cs <;> simp [h]

theorem firstMatch_take {rules : List (LexRule τ)} (hr : ∀ r ∈ rules, LexRule.Truncates r.munch)
    {cs : List Char} {n : Nat} {hn : 0 < n} {tag : Option τ}
    (h : firstMatch rules cs = some (⟨n, hn⟩, tag)) {m : Nat} (hm : n ≤ m) :
    firstMatch rules (cs.take m) = some (⟨n, hn⟩, tag) := by
  obtain ⟨pre, r, post, rfl, hn', htag, hpre⟩ := firstMatch_eq_some_iff.mp h
  refine firstMatch_eq_some_iff.mpr ⟨pre, r, post, rfl, ?_, htag, fun r' hr' => ?_⟩
  · rw [hr r (by simp) cs m (hn' ▸ hm), hn']
  · rw [hr r' (by simp [hr']) cs m (by rw [hpre r' hr']; omega), hpre r' hr']

theorem scan_take {lx : Lexer τ} (hr : ∀ r ∈ lx.rules, LexRule.Truncates r.munch) {c : Char}
    {rest : List Char} {n : Nat} {hn : 0 < n} {tag : Option τ}
    (h : firstMatch lx.rules (c :: rest) = some (⟨n, hn⟩, tag)) {m : Nat} (hm : n ≤ m)
    (pos byte : Nat) :
    lx.scan ((c :: rest).take m) pos byte =
      match tag with
      | none => lx.scan (((c :: rest).drop n).take (m - n)) (pos + n)
          (((c :: rest).take n).foldl (fun b c => b + c.utf8Size) byte)
      | some tg => (do
        Traced.trace .lexer (lx.tokenMessage ⟨String.ofList ((c :: rest).take n), tg⟩ byte)
        let r ← lx.scan (((c :: rest).drop n).take (m - n)) (pos + n)
          (((c :: rest).take n).foldl (fun b c => b + c.utf8Size) byte)
        pure (r.map (⟨String.ofList ((c :: rest).take n), tg⟩ :: ·))) := by
  have hcut := firstMatch_take hr h hm
  obtain ⟨m, rfl⟩ : ∃ m', m = m' + 1 := ⟨m - 1, by omega⟩
  have htake : ((c :: rest).take (m + 1)).take n = (c :: rest).take n := by
    rw [List.take_take, Nat.min_eq_left hm]
  have hdrop : ((c :: rest).take (m + 1)).drop n = ((c :: rest).drop n).take (m + 1 - n) :=
    List.drop_take
  rw [List.take_succ_cons] at hcut htake hdrop ⊢
  rw [scan.eq_2, hcut]
  simp only [htake, hdrop]
  cases tag <;> rfl

/-- The records are the trace records of the tokens, one for each in order, each with the byte
offset where its token starts. -/
def Emits (lx : Lexer τ) (records : List Record) (ts : List (Token τ)) : Prop :=
  List.Forall₂ (fun r t => ∃ byte, r = ⟨.trace, .lexer, lx.tokenMessage t byte⟩) records ts

theorem map_eq_ok_cons {α : Type} {x : Except LexError (List α)} {t : α} {ts : List α}
    (h : x.map (t :: ·) = .ok ts) : ∃ ts', x = .ok ts' ∧ ts = t :: ts' := by
  cases x with
  | error e => cases h
  | ok ts' => exact ⟨ts', rfl, (Except.ok.inj h).symm⟩

theorem map_eq_error {α : Type} {x : Except LexError (List α)} {t : α} {e : LexError}
    (h : x.map (t :: ·) = .error e) : x = .error e := by
  cases x with
  | error e' => exact h
  | ok ts' => cases h

theorem emits_scan {lx : Lexer τ} {cs : List Char} {pos byte : Nat} {ts : List (Token τ)}
    (h : (lx.scan cs pos byte).value = .ok ts) : lx.Emits (lx.scan cs pos byte).records ts := by
  fun_induction lx.scan cs pos byte generalizing ts with
  | case1 =>
    obtain rfl : ([] : List (Token τ)) = ts := Except.ok.inj h
    exact List.Forall₂.nil
  | case2 => cases h
  | case3 pos byte c rest n hn text next hmatch =>
    rename_i ih
    exact ih h
  | case4 pos byte c rest n hn text next tg t hmatch =>
    rename_i ih
    simp only [Traced.bind_value, Traced.pure_value] at h
    obtain ⟨ts', hts', rfl⟩ := map_eq_ok_cons h
    simp only [Traced.bind_records, Traced.pure_records, List.append_nil]
    exact List.Forall₂.cons ⟨byte, rfl⟩ (ih hts')

theorem scan_error {lx : Lexer τ} (hr : ∀ r ∈ lx.rules, LexRule.Truncates r.munch) {cs : List Char}
    {pos byte : Nat} {c : Char} {q : Nat} (h : (lx.scan cs pos byte).value = .error ⟨c, q⟩) :
    pos ≤ q ∧ cs[q - pos]? = some c ∧ (∃ ts, (lx.scan (cs.take (q - pos)) pos byte).value = .ok ts) ∧
      (lx.scan (cs.take (q - pos)) pos byte).records = (lx.scan cs pos byte).records := by
  fun_induction lx.scan cs pos byte with
  | case1 => cases h
  | case2 pos byte c' rest hnone =>
    obtain ⟨rfl, rfl⟩ : c' = c ∧ pos = q := by simpa using h
    simp [scan.eq_1]
  | case3 pos byte c' rest n hn text next hmatch ih =>
    obtain ⟨hle, hget, ⟨ts, hts⟩, hrec⟩ := ih h
    have hm : n ≤ q - pos := by omega
    have hcut : q - pos - n = q - (pos + n) := by omega
    refine ⟨by omega, ?_, ⟨ts, ?_⟩, ?_⟩
    · rw [List.getElem?_drop, show n + (q - (pos + n)) = q - pos by omega] at hget
      exact hget
    · rw [scan_take hr hmatch hm, hcut]
      exact hts
    · rw [scan_take hr hmatch hm, hcut]
      exact hrec
  | case4 pos byte c' rest n hn text next tg t hmatch =>
    rename_i ih
    simp only [Traced.bind_value, Traced.pure_value] at h
    obtain ⟨hle, hget, ⟨ts, hts⟩, hrec⟩ := ih (map_eq_error h)
    have hm : n ≤ q - pos := by omega
    have hcut : q - pos - n = q - (pos + n) := by omega
    refine ⟨by omega, ?_, ⟨t :: ts, ?_⟩, ?_⟩
    · rw [List.getElem?_drop, show n + (q - (pos + n)) = q - pos by omega] at hget
      exact hget
    · rw [scan_take hr hmatch hm, hcut]
      exact congrArg (Except.map (t :: ·)) hts
    · rw [scan_take hr hmatch hm, hcut]
      simp only [Traced.bind_records, Traced.pure_records]
      exact congrArg (fun rs => _ ++ (rs ++ [])) hrec

/-! ### The table of the propositional language -/

theorem builtin_truncates : ∀ r ∈ builtin.rules, LexRule.Truncates r.munch := by
  intro r hr
  simp only [builtin, List.mem_cons, List.not_mem_nil, or_false] at hr
  rcases hr with rfl | rfl | rfl | rfl | rfl | rfl | rfl | rfl | rfl | rfl | rfl | rfl
  · exact LexRule.truncates_blanks
  · exact LexRule.truncates_exact "<->"
  · exact LexRule.truncates_exact "->"
  · exact LexRule.truncates_exact "-"
  · exact LexRule.truncates_oneOf ['&', '*']
  · exact LexRule.truncates_exact "/"
  · exact LexRule.truncates_oneOf ['V', '+']
  · exact LexRule.truncates_exact "!"
  · exact LexRule.truncates_exact "^"
  · exact LexRule.truncates_oneOf ['(', ')']
  · exact LexRule.truncates_oneOf ['0', '1']
  · exact LexRule.truncates_letter

/-- The characters skipped between tokens: space, tab, carriage return and line feed. -/
def isBlank (c : Char) : Bool := c == ' ' || c == '\t' || c == '\r' || c == '\n'

def operatorLexemes : List String := ["<->", "->", "-", "&", "*", "/", "V", "+", "!", "^", "(", ")"]

/-- A lexeme of the table: an operator spelling, a constant, or one ASCII letter. -/
def IsTableLexeme (l : String) : Prop :=
  l ∈ operatorLexemes ∨ l = "0" ∨ l = "1" ∨ ∃ c : Char, c.isAlpha ∧ l = c.toString

/-- A token of the table: an operator, the constant `0` or `1`, or a variable named by one ASCII
letter other than `V`, which spells disjunction. -/
def IsTableToken (t : Token Tag) : Prop :=
  (t.tag = .operator ∧ t.lexeme ∈ operatorLexemes) ∨
    (t.tag = .constant ∧ (t.lexeme = "0" ∨ t.lexeme = "1")) ∨
    (t.tag = .var ∧ ∃ c : Char, c.isAlpha ∧ c ≠ 'V' ∧ t.lexeme = c.toString)

/-- `Munches cs ts`: reading `cs` from the left, blanks are skipped, and each token of `ts` is a
token of the table whose lexeme is the longest lexeme of the table starting where it starts. -/
inductive Munches : List Char → List (Token Tag) → Prop
  | nil : Munches [] []
  | blank {c : Char} {cs : List Char} {ts : List (Token Tag)} :
      isBlank c = true → Munches cs ts → Munches (c :: cs) ts
  | token {t : Token Tag} {cs : List Char} {ts : List (Token Tag)} : IsTableToken t →
      (∀ l, IsTableLexeme l → l.toList <+: t.lexeme.toList ++ cs → l.length ≤ t.lexeme.length) →
      Munches cs ts → Munches (t.lexeme.toList ++ cs) (t :: ts)

theorem Munches.blanks {bs cs : List Char} {ts : List (Token Tag)}
    (hbs : ∀ c ∈ bs, isBlank c = true) (h : Munches cs ts) : Munches (bs ++ cs) ts := by
  induction bs with
  | nil => exact h
  | cons b bs ih =>
    exact Munches.blank (hbs b (by simp)) (ih fun c hc => hbs c (by simp [hc]))

theorem IsTableLexeme.length_le {l : String} (hl : IsTableLexeme l) :
    l.length ≤ 1 ∨ l = "->" ∨ l = "<->" := by
  rcases hl with hop | rfl | rfl | ⟨c, -, rfl⟩
  · simp only [operatorLexemes, List.mem_cons, List.not_mem_nil, or_false] at hop
    rcases hop with rfl | rfl | rfl | rfl | rfl | rfl | rfl | rfl | rfl | rfl | rfl | rfl <;> decide
  · decide
  · decide
  · simp

theorem length_le_one_of_no_arrow {l : String} (hl : IsTableLexeme l) {c : Char} {rest : List Char}
    (hp : l.toList <+: c :: rest) (hlt : c ≠ '<') (hdash : c = '-' → rest.head? ≠ some '>') :
    l.length ≤ 1 := by
  rcases hl.length_le with h | rfl | rfl
  · exact h
  · -- `->` starts only at a `-` followed by `>`
    obtain ⟨rfl, ⟨r, hr⟩⟩ := List.cons_prefix_cons.mp (by simpa using hp)
    exact absurd (by rw [← hr]; rfl) (hdash rfl)
  · exact absurd (List.cons_prefix_cons.mp (by simpa using hp)).1.symm hlt

theorem matchOf_blank {c : Char} (hc : isBlank c = true) (rest : List Char) :
    matchOf (c :: rest) = some (((c :: rest).takeWhile isBlank).length, none) := by
  have hpos : 0 < LexRule.blanks (c :: rest) := by
    show 0 < ((c :: rest).takeWhile isBlank).length
    rw [List.takeWhile_cons, if_pos hc]
    simp
  simp only [matchOf, builtin, firstMatch_cons, dif_pos hpos]
  rfl

theorem matchOf_lt {rest : List Char} (hr : rest.take 2 ≠ ['-', '>']) :
    matchOf ('<' :: rest) = none := by
  simp [matchOf, firstMatch, builtin, LexRule.exact, LexRule.oneOf, LexRule.letter, LexRule.blanks,
    literal_lengths, hr]

theorem matchOf_dash {rest : List Char} (hr : rest.head? ≠ some '>') :
    matchOf ('-' :: rest) = some (1, some .operator) := by
  cases rest with
  | nil =>
    simp [matchOf, firstMatch, builtin, LexRule.exact, LexRule.blanks, literal_lengths]
    rfl
  | cons d r =>
    have hd : d ≠ '>' := by simpa using hr
    simp [matchOf, firstMatch, builtin, LexRule.exact, LexRule.blanks, literal_lengths, hd]
    rfl

theorem matchOf_other {c : Char} (hb : isBlank c = false) (hα : c.isAlpha = false)
    (hc : c ∉ ['<', '-', '&', '*', '/', 'V', '+', '!', '^', '(', ')', '0', '1']) (rest : List Char) :
    matchOf (c :: rest) = none := by
  simp only [List.mem_cons, List.not_mem_nil, or_false, not_or] at hc
  simp only [isBlank, Bool.or_eq_false_iff, beq_eq_false_iff_ne, ne_eq] at hb
  simp [matchOf, firstMatch, builtin, LexRule.exact, LexRule.oneOf, LexRule.letter, LexRule.blanks,
    literal_lengths, hα, hc, hb]

theorem char_cases (c : Char) :
    isBlank c = true ∨ c = '<' ∨ c = '-' ∨
      (c = '&' ∨ c = '*' ∨ c = '/' ∨ c = 'V' ∨ c = '+' ∨ c = '!' ∨ c = '^' ∨ c = '(' ∨ c = ')') ∨
      (c = '0' ∨ c = '1') ∨ (c.isAlpha = true ∧ c ≠ 'V') ∨
      (isBlank c = false ∧ c.isAlpha = false ∧
        c ∉ ['<', '-', '&', '*', '/', 'V', '+', '!', '^', '(', ')', '0', '1']) := by
  by_cases hb : isBlank c = true
  · exact .inl hb
  by_cases hs : c ∈ ['<', '-', '&', '*', '/', 'V', '+', '!', '^', '(', ')', '0', '1']
  · simp only [List.mem_cons, List.not_mem_nil, or_false] at hs
    rcases hs with h | h | h | h | h | h | h | h | h | h | h | h | h <;> simp [h]
  by_cases hα : c.isAlpha = true
  · refine .inr (.inr (.inr (.inr (.inr (.inl ⟨hα, ?_⟩)))))
    rintro rfl
    simp at hs
  · exact .inr (.inr (.inr (.inr (.inr (.inr ⟨by simpa using hb, by simpa using hα, hs⟩)))))

theorem matchOf_token {c : Char} {rest : List Char} {n : Nat} {tg : Tag}
    (h : matchOf (c :: rest) = some (n, some tg)) :
    IsTableToken ⟨String.ofList ((c :: rest).take n), tg⟩ ∧
      ∀ l, IsTableLexeme l → l.toList <+: c :: rest → l.length ≤ n := by
  rcases char_cases c with hb | rfl | rfl | hop | hd | ⟨hα, hV⟩ | ⟨hb, hα, hs⟩
  · rw [matchOf_blank hb] at h
    cases h
  · -- `<` starts a token only as the equivalence arrow, the longest lexeme there is
    by_cases hr : rest.take 2 = ['-', '>']
    · obtain ⟨r, rfl⟩ : ∃ r, rest = '-' :: '>' :: r := ⟨rest.drop 2, by
        rw [← List.take_append_drop 2 rest, hr]; rfl⟩
      rw [matchOf_iff] at h
      simp only [Option.some.injEq, Prod.mk.injEq] at h
      obtain ⟨rfl, rfl⟩ := h
      refine ⟨.inl ⟨rfl, by simp [operatorLexemes]⟩, fun l hl _ => ?_⟩
      rcases hl.length_le with h1 | rfl | rfl
      · omega
      · decide
      · decide
    · rw [matchOf_lt hr] at h
      cases h
  · -- `-` is the implication arrow when `>` follows, and negation otherwise
    by_cases hr : rest.head? = some '>'
    · obtain ⟨r, rfl⟩ : ∃ r, rest = '>' :: r := by
        cases rest with
        | nil => cases hr
        | cons d r => exact ⟨r, by simp_all⟩
      rw [matchOf_imply] at h
      simp only [Option.some.injEq, Prod.mk.injEq] at h
      obtain ⟨rfl, rfl⟩ := h
      refine ⟨.inl ⟨rfl, by simp [operatorLexemes]⟩, fun l hl hp => ?_⟩
      rcases hl.length_le with h1 | rfl | rfl
      · omega
      · decide
      · simp at hp
    · rw [matchOf_dash hr] at h
      simp only [Option.some.injEq, Prod.mk.injEq] at h
      obtain ⟨rfl, rfl⟩ := h
      exact ⟨.inl ⟨rfl, by simp [operatorLexemes]⟩,
        fun l hl hp => length_le_one_of_no_arrow hl hp (by decide) fun _ => hr⟩
  · rw [matchOf_operator hop] at h
    simp only [Option.some.injEq, Prod.mk.injEq] at h
    obtain ⟨rfl, rfl⟩ := h
    refine ⟨.inl ⟨rfl, ?_⟩, fun l hl hp => length_le_one_of_no_arrow hl hp ?_ ?_⟩
    · rcases hop with rfl | rfl | rfl | rfl | rfl | rfl | rfl | rfl | rfl <;> simp [operatorLexemes]
    · rcases hop with rfl | rfl | rfl | rfl | rfl | rfl | rfl | rfl | rfl <;> decide
    · rcases hop with rfl | rfl | rfl | rfl | rfl | rfl | rfl | rfl | rfl <;>
        exact fun e => absurd e (by decide)
  · rw [matchOf_digit hd] at h
    simp only [Option.some.injEq, Prod.mk.injEq] at h
    obtain ⟨rfl, rfl⟩ := h
    refine ⟨.inr (.inl ⟨rfl, ?_⟩), fun l hl hp => length_le_one_of_no_arrow hl hp ?_ ?_⟩
    · rcases hd with rfl | rfl <;> simp
    · rcases hd with rfl | rfl <;> decide
    · rcases hd with rfl | rfl <;> exact fun e => absurd e (by decide)
  · rw [matchOf_letter hα hV] at h
    simp only [Option.some.injEq, Prod.mk.injEq] at h
    obtain ⟨rfl, rfl⟩ := h
    refine ⟨.inr (.inr ⟨rfl, c, hα, hV, rfl⟩),
      fun l hl hp => length_le_one_of_no_arrow hl hp (ne_of_isAlpha hα rfl) fun e => ?_⟩
    exact absurd e (ne_of_isAlpha hα rfl)
  · rw [matchOf_other hb hα hs] at h
    cases h

theorem matchOf_skip {c : Char} {rest : List Char} {n : Nat} (h : matchOf (c :: rest) = some (n, none)) :
    ∀ x ∈ (c :: rest).take n, isBlank x = true := by
  rcases char_cases c with hb | rfl | rfl | hop | hd | ⟨hα, hV⟩ | ⟨hb, hα, hs⟩
  · rw [matchOf_blank hb] at h
    obtain rfl := (Prod.mk.inj (Option.some.inj h)).1
    have hrun : (c :: rest).takeWhile isBlank <+: c :: rest := List.takeWhile_prefix isBlank
    rw [← List.prefix_iff_eq_take.mp hrun]
    exact fun x hx => List.mem_takeWhile_imp hx
  · by_cases hr : rest.take 2 = ['-', '>']
    · obtain ⟨r, rfl⟩ : ∃ r, rest = '-' :: '>' :: r := ⟨rest.drop 2, by
        rw [← List.take_append_drop 2 rest, hr]; rfl⟩
      rw [matchOf_iff] at h
      cases h
    · rw [matchOf_lt hr] at h
      cases h
  · by_cases hr : rest.head? = some '>'
    · obtain ⟨r, rfl⟩ : ∃ r, rest = '>' :: r := by
        cases rest with
        | nil => cases hr
        | cons d r => exact ⟨r, by simp_all⟩
      rw [matchOf_imply] at h
      cases h
    · rw [matchOf_dash hr] at h
      cases h
  · rw [matchOf_operator hop] at h
    cases h
  · rw [matchOf_digit hd] at h
    cases h
  · rw [matchOf_letter hα hV] at h
    cases h
  · rw [matchOf_other hb hα hs] at h
    cases h

theorem munches_scan {cs : List Char} {pos byte : Nat} {ts : List (Token Tag)}
    (h : (builtin.scan cs pos byte).value = .ok ts) : Munches cs ts := by
  fun_induction builtin.scan cs pos byte generalizing ts with
  | case1 =>
    obtain rfl : ([] : List (Token Tag)) = ts := Except.ok.inj h
    exact Munches.nil
  | case2 => cases h
  | case3 pos byte c rest n hn text next hmatch =>
    rename_i ih
    have hm : matchOf (c :: rest) = some (n, none) := by simp [matchOf, hmatch]
    have hskip := matchOf_skip hm
    rw [← List.take_append_drop n (c :: rest)]
    exact Munches.blanks hskip (ih h)
  | case4 pos byte c rest n hn text next tg t hmatch =>
    rename_i ih
    simp only [Traced.bind_value, Traced.pure_value] at h
    obtain ⟨ts', hts', rfl⟩ := map_eq_ok_cons h
    have hm : matchOf (c :: rest) = some (n, some tg) := by simp [matchOf, hmatch]
    obtain ⟨htok, hlong⟩ := matchOf_token hm
    have hlex : t.lexeme.toList = (c :: rest).take n := String.toList_ofList
    have hsplit : t.lexeme.toList ++ (c :: rest).drop n = c :: rest := by
      rw [hlex, List.take_append_drop]
    have hmunch := Munches.token (t := t) htok (fun l hl hp => ?_) (ih hts')
    · rwa [hsplit] at hmunch
    · rw [hsplit] at hp
      have hlen : t.lexeme.length = min n (rest.length + 1) := by
        rw [← String.length_toList, hlex, List.length_take, List.length_cons]
      have hpre := hp.length_le
      rw [String.length_toList, List.length_cons] at hpre
      have := hlong l hl hp
      omega

theorem IsTableToken.isBlank_eq_false {t : Token Tag} (ht : IsTableToken t) :
    ∀ x ∈ t.lexeme.toList, isBlank x = false := by
  rcases ht with ⟨-, hop⟩ | ⟨-, h | h⟩ | ⟨-, c, hα, -, hc⟩
  · simp only [operatorLexemes, List.mem_cons, List.not_mem_nil, or_false] at hop
    rcases hop with h | h | h | h | h | h | h | h | h | h | h | h <;> simp [h, isBlank]
  · simp [h, isBlank]
  · simp [h, isBlank]
  · rw [hc]
    intro x hx
    obtain rfl : x = c := by simpa using hx
    simp only [isBlank, Bool.or_eq_false_iff, beq_eq_false_iff_ne, ne_eq]
    exact ⟨⟨⟨ne_of_isAlpha hα rfl, ne_of_isAlpha hα rfl⟩, ne_of_isAlpha hα rfl⟩,
      ne_of_isAlpha hα rfl⟩

theorem Munches.isTableToken {cs : List Char} {ts : List (Token Tag)} (h : Munches cs ts) :
    ∀ t ∈ ts, IsTableToken t := by
  induction h with
  | nil => simp
  | blank _ _ ih => exact ih
  | token ht _ _ ih =>
    intro t' ht'
    rcases List.mem_cons.mp ht' with rfl | ht'
    · exact ht
    · exact ih t' ht'

theorem Munches.lexemes {cs : List Char} {ts : List (Token Tag)} (h : Munches cs ts) :
    (ts.map fun t => t.lexeme.toList).flatten = cs.filter fun c => !isBlank c := by
  induction h with
  | nil => rfl
  | blank hc _ ih => rw [List.filter_cons_of_neg (by simp [hc]), ih]
  | @token t cs ts ht _ _ ih =>
    have hkeep : t.lexeme.toList.filter (fun c => !isBlank c) = t.lexeme.toList :=
      List.filter_eq_self.mpr fun x hx => by simp [ht.isBlank_eq_false x hx]
    rw [List.map_cons, List.flatten_cons, ih, List.filter_append, hkeep]

theorem lex_eq_scan (s : String) : lex s = builtin.scan s.toList 0 0 := rfl

/-- The lexer reads a text by maximal munch and reports an illegal character where it stands.
On success the lexemes spell the text without its blanks, every token is a token of the table,
and each is the longest lexeme of the table starting where it starts. On failure the reported
character stands at the reported character position, and the text before it lexes alone to
the tokens whose records the failing run emitted. -/
theorem lex_maximal_munch (s : String) :
    (∀ ts, (lex s).value = .ok ts →
      String.join (ts.map Token.lexeme) = String.ofList (s.toList.filter fun c => !isBlank c) ∧
        (∀ t ∈ ts, IsTableToken t) ∧ Munches s.toList ts) ∧
    (∀ c p, (lex s).value = .error ⟨c, p⟩ →
      s.toList[p]? = some c ∧
        ∃ ts, (lex (String.ofList (s.toList.take p))).value = .ok ts ∧
          (lex (String.ofList (s.toList.take p))).records = (lex s).records ∧
          builtin.Emits (lex s).records ts) := by
  refine ⟨fun ts h => ?_, fun c p h => ?_⟩
  · have hm := munches_scan h
    refine ⟨?_, hm.isTableToken, hm⟩
    rw [← String.toList_inj, String.toList_join, String.toList_ofList, ← hm.lexemes,
      List.flatMap_def, List.map_map]
    rfl
  · obtain ⟨-, hget, ⟨ts, hts⟩, hrec⟩ := scan_error builtin_truncates h
    rw [Nat.sub_zero] at hget hts hrec
    have hpre : lex (String.ofList (s.toList.take p)) = builtin.scan (s.toList.take p) 0 0 := by
      rw [lex_eq_scan, String.toList_ofList]
    refine ⟨hget, ts, by rw [hpre]; exact hts, by rw [hpre]; exact hrec, ?_⟩
    rw [lex_eq_scan, ← hrec]
    exact emits_scan hts

theorem lex_maximal_munch_arrow :
    (lex "-a->b").value = .ok [⟨"-", .operator⟩, ⟨"a", .var⟩, ⟨"->", .operator⟩, ⟨"b", .var⟩] ∧
      (String.join (([⟨"-", .operator⟩, ⟨"a", .var⟩, ⟨"->", .operator⟩, ⟨"b", .var⟩] :
          List (Token Tag)).map Token.lexeme) =
          String.ofList ("-a->b".toList.filter fun c => !isBlank c) ∧
        (∀ t ∈ ([⟨"-", .operator⟩, ⟨"a", .var⟩, ⟨"->", .operator⟩, ⟨"b", .var⟩] : List (Token Tag)),
          IsTableToken t) ∧
        Munches "-a->b".toList [⟨"-", .operator⟩, ⟨"a", .var⟩, ⟨"->", .operator⟩, ⟨"b", .var⟩]) ∧
    (lex "a ->#").value = .error ⟨'#', 4⟩ ∧
      ("a ->#".toList[4]? = some '#' ∧
        ∃ ts, (lex (String.ofList ("a ->#".toList.take 4))).value = .ok ts ∧
          (lex (String.ofList ("a ->#".toList.take 4))).records = (lex "a ->#").records ∧
          builtin.Emits (lex "a ->#").records ts) := by
  have hok : (lex "-a->b").value =
      .ok [⟨"-", .operator⟩, ⟨"a", .var⟩, ⟨"->", .operator⟩, ⟨"b", .var⟩] := by
    simp [lex_eq_scan, scan, builtin, LexRule.exact, LexRule.oneOf, LexRule.letter, LexRule.blanks,
      literal_lengths, firstMatch]
    rfl
  have herr : (lex "a ->#").value = .error ⟨'#', 4⟩ := by
    simp [lex_eq_scan, scan, builtin, LexRule.exact, LexRule.oneOf, LexRule.letter, LexRule.blanks,
      literal_lengths, firstMatch]
    rfl
  exact ⟨hok, (lex_maximal_munch "-a->b").1 _ hok, herr, (lex_maximal_munch "a ->#").2 '#' 4 herr⟩

end Lexer

end PropCalc
