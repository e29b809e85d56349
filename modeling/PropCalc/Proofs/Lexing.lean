import Mathlib
import PropCalc.Syntax.Lexer

namespace PropCalc

namespace Lexer

variable {τ : Type}

theorem scan_value_token {lx : Lexer τ} {c : Char} {rest : List Char} {n : Nat} {hn : 0 < n}
    {tag : τ} (h : firstMatch lx.rules (c :: rest) = some (⟨n, hn⟩, some tag)) (pos byte : Nat) :
    (lx.scan (c :: rest) pos byte).value =
      (lx.scan ((c :: rest).drop n) (pos + n)
        (((c :: rest).take n).foldl (fun b c => b + c.utf8Size) byte)).value.map
        (⟨String.ofList ((c :: rest).take n), tag⟩ :: ·) := by
  rw [scan.eq_2, h]
  rfl

theorem scan_value_skip {lx : Lexer τ} {c : Char} {rest : List Char} {n : Nat} {hn : 0 < n}
    (h : firstMatch lx.rules (c :: rest) = some (⟨n, hn⟩, none)) (pos byte : Nat) :
    (lx.scan (c :: rest) pos byte).value =
      (lx.scan ((c :: rest).drop n) (pos + n)
        (((c :: rest).take n).foldl (fun b c => b + c.utf8Size) byte)).value := by
  rw [scan.eq_2, h]

/-- The length and tag of the first match of the built-in table at the start of `cs`. -/
def matchOf (cs : List Char) : Option (Nat × Option Tag) :=
  (firstMatch builtin.rules cs).map fun p => (p.1.1, p.2)

/-- The characters `cs` lex to the tokens `ts` in front of any rest that `P` admits. -/
def Lexes (P : List Char → Prop) (cs : List Char) (ts : List (Token Tag)) : Prop :=
  ∀ rest, P rest → ∀ pos byte, ∃ pos' byte',
    (builtin.scan (cs ++ rest) pos byte).value = (builtin.scan rest pos' byte').value.map (ts ++ ·)

theorem Lexes.append {P Q : List Char → Prop} {cs ds : List Char} {ts us : List (Token Tag)}
    (h₁ : Lexes P cs ts) (h₂ : Lexes Q ds us) (hPQ : ∀ rest, Q rest → P (ds ++ rest)) :
    Lexes Q (cs ++ ds) (ts ++ us) := by
  intro rest hr pos byte
  obtain ⟨pos₁, byte₁, e₁⟩ := h₁ (ds ++ rest) (hPQ rest hr) pos byte
  obtain ⟨pos₂, byte₂, e₂⟩ := h₂ rest hr pos₁ byte₁
  refine ⟨pos₂, byte₂, ?_⟩
  rw [List.append_assoc, e₁, e₂]
  cases (builtin.scan rest pos₂ byte₂).value <;> simp [Except.map]

theorem lexes_token {P : List Char → Prop} {s : String} {tag : Tag} (hs : s.toList ≠ [])
    (h : ∀ rest, P rest → matchOf (s.toList ++ rest) = some (s.toList.length, some tag)) :
    Lexes P s.toList [⟨s, tag⟩] := by
  intro rest hr pos byte
  obtain ⟨c, cs, hc⟩ := List.exists_cons_of_ne_nil hs
  have hm := h rest hr
  rw [String.length_toList] at hm
  rw [hc] at hm ⊢
  obtain ⟨⟨⟨n, hn⟩, tg⟩, hfirst, he⟩ := Option.map_eq_some_iff.mp hm
  obtain ⟨rfl, rfl⟩ := Prod.mk.inj he
  have hlen : (c :: cs).length = s.length := by rw [← hc, String.length_toList]
  have htake : (c :: (cs ++ rest)).take s.length = c :: cs := List.take_left' hlen
  have hdrop : (c :: (cs ++ rest)).drop s.length = rest := List.drop_left' hlen
  refine ⟨pos + s.length, (c :: cs).foldl (fun b c => b + c.utf8Size) byte, ?_⟩
  rw [List.cons_append] at hfirst ⊢
  rw [scan_value_token hfirst pos byte, htake, hdrop, ← hc, String.ofList_toList]
  rfl

theorem lexes_skip {P : List Char → Prop} {cs : List Char} (hcs : cs ≠ [])
    (h : ∀ rest, P rest → matchOf (cs ++ rest) = some (cs.length, none)) : Lexes P cs [] := by
  intro rest hr pos byte
  obtain ⟨c, ds, rfl⟩ := List.exists_cons_of_ne_nil hcs
  obtain ⟨⟨⟨n, hn⟩, tg⟩, hfirst, he⟩ := Option.map_eq_some_iff.mp (h rest hr)
  obtain ⟨rfl, rfl⟩ := Prod.mk.inj he
  have hdrop : (c :: (ds ++ rest)).drop (c :: ds).length = rest := List.drop_left
  have htake : (c :: (ds ++ rest)).take (c :: ds).length = c :: ds := List.take_left
  refine ⟨pos + (c :: ds).length, (c :: ds).foldl (fun b c => b + c.utf8Size) byte, ?_⟩
  rw [List.cons_append] at hfirst ⊢
  rw [scan_value_skip hfirst pos byte, hdrop, htake]
  cases (builtin.scan rest _ _).value <;> simp [Except.map]

/-- What may follow a piece of printed text: no blank, and no `>` that would lengthen a `-`
into an arrow. -/
def Solid (rest : List Char) : Prop :=
  ∀ c ∈ rest.head?, c ≠ ' ' ∧ c ≠ '\t' ∧ c ≠ '\r' ∧ c ≠ '\n' ∧ c ≠ '>'

theorem literal_lengths :
    "<->".length = 3 ∧ "->".length = 2 ∧ "-".length = 1 ∧ "/".length = 1 ∧ "!".length = 1 ∧
      "^".length = 1 :=
  ⟨rfl, rfl, rfl, rfl, rfl, rfl⟩

theorem ne_of_isAlpha {c d : Char} (hc : c.isAlpha = true) (hd : d.isAlpha = false) : c ≠ d := by
  rintro rfl
  simp_all

theorem matchOf_operator {c : Char}
    (hc : c = '&' ∨ c = '*' ∨ c = '/' ∨ c = 'V' ∨ c = '+' ∨ c = '!' ∨ c = '^' ∨ c = '(' ∨ c = ')')
    (rest : List Char) : matchOf (c :: rest) = some (1, some .operator) := by
  rcases hc with rfl | rfl | rfl | rfl | rfl | rfl | rfl | rfl | rfl <;>
    simp [matchOf, firstMatch, builtin, LexRule.exact, LexRule.oneOf, LexRule.blanks,
      literal_lengths] <;> rfl

theorem matchOf_digit {c : Char} (hc : c = '0' ∨ c = '1') (rest : List Char) :
    matchOf (c :: rest) = some (1, some .constant) := by
  rcases hc with rfl | rfl <;>
    simp [matchOf, firstMatch, builtin, LexRule.exact, LexRule.oneOf, LexRule.blanks,
      literal_lengths] <;> rfl

theorem matchOf_letter {c : Char} (hc : c.isAlpha = true) (hV : c ≠ 'V') (rest : List Char) :
    matchOf (c :: rest) = some (1, some .var) := by
  simp [matchOf, firstMatch, builtin, List.findSome?_cons, LexRule.exact, LexRule.oneOf,
    LexRule.letter, LexRule.blanks, literal_lengths, ne_of_isAlpha hc, hc, hV]
  rfl

theorem matchOf_minus {rest : List Char} (hr : Solid rest) :
    matchOf ('-' :: rest) = some (1, some .operator) := by
  cases rest with
  | nil =>
    simp [matchOf, firstMatch, builtin, LexRule.exact, LexRule.blanks, literal_lengths]
    rfl
  | cons d r =>
    have hd : d ≠ '>' := (hr d rfl).2.2.2.2
    simp [matchOf, firstMatch, builtin, LexRule.exact, LexRule.blanks, literal_lengths, hd]
    rfl

theorem matchOf_imply (rest : List Char) : matchOf ('-' :: '>' :: rest) = some (2, some .operator) := by
  simp [matchOf, firstMatch, builtin, LexRule.exact, LexRule.blanks, literal_lengths]
  rfl

theorem matchOf_iff (rest : List Char) :
    matchOf ('<' :: '-' :: '>' :: rest) = some (3, some .operator) := by
  simp [matchOf, firstMatch, builtin, LexRule.exact, LexRule.blanks, literal_lengths]
  rfl

theorem matchOf_space {rest : List Char} (hr : Solid rest) : matchOf (' ' :: rest) = some (1, none) := by
  cases rest with
  | nil =>
    simp [matchOf, firstMatch, builtin, LexRule.blanks]
    rfl
  | cons d r =>
    obtain ⟨h₁, h₂, h₃, h₄, -⟩ := hr d rfl
    simp [matchOf, firstMatch, builtin, LexRule.blanks, h₁, h₂, h₃, h₄]
    rfl

end Lexer

end PropCalc
