import Mathlib
import PropCalc.Syntax.Grammar

namespace PropCalc

namespace Connective

theorem one_le_tier (op : Connective) : 1 ≤ op.tier := by
  cases op <;> decide

theorem tier_le_three (op : Connective) : op.tier ≤ 3 := by
  cases op <;> decide

theorem eq_of_mem_spellings {a b : Connective} {s : String} (ha : s ∈ a.spellings)
    (hb : s ∈ b.spellings) : a = b := by
  cases a <;> cases b <;> simp [spellings] at ha hb ⊢ <;>
    rcases ha with rfl | rfl <;> simp at hb

end Connective

namespace Grammar

/-- What the reader of level `k` yields on `ts`, without its length bound. -/
def reads (k : Nat) (ts : Tokens) : Option (Formula × Tokens) := (level k ts).map Subtype.val

/-- What the term reader yields on `ts`. -/
def termReads (ts : Tokens) : Option (Formula × Tokens) := (term ts).map Subtype.val

/-- What a fold of tier `k + 1` connectives from `acc` yields on `ts`. -/
def foldReads (k : Nat) (acc : Formula) (ts : Tokens) : Formula × Tokens := (fold k acc ts).1

theorem reads_zero (ts : Tokens) : reads 0 ts = termReads ts := by
  rw [reads, termReads, level.eq_1]

theorem reads_succ (k : Nat) (ts : Tokens) :
    reads (k + 1) ts = (reads k ts).map fun p => foldReads k p.1 p.2 := by
  unfold reads foldReads
  rw [level.eq_2]
  rcases level k ts with _ | ⟨⟨a, r⟩, h⟩ <;> rfl

theorem termReads_nil : termReads [] = none := by
  rw [termReads, term.eq_1]
  rfl

theorem termReads_cons (t : Token Tag) (rest : Tokens) :
    termReads (t :: rest) =
      if isOperator t "-" then (termReads rest).map fun p => (.neg p.1, p.2)
      else if isOperator t "(" then
        match reads 3 rest with
        | some (e, u :: r) => if isOperator u ")" then some (e, r) else none
        | _ => none
      else (atom t).map fun f => (f, rest) := by
  unfold reads termReads
  rw [term.eq_2]
  split_ifs with hneg hopen
  · rcases term rest with _ | ⟨⟨a, r⟩, h⟩ <;> rfl
  · rcases level 3 rest with _ | ⟨⟨e, _ | ⟨u, r⟩⟩, h⟩
    · rfl
    · rfl
    · dsimp only [Option.map_some]
      split_ifs <;> rfl
  · rcases atom t with _ | f <;> rfl

theorem foldReads_nil (k : Nat) (acc : Formula) : foldReads k acc [] = (acc, []) := by
  rw [foldReads, fold.eq_1]

theorem foldReads_cons (k : Nat) (acc : Formula) (t : Token Tag) (rest : Tokens) :
    foldReads k acc (t :: rest) =
      match connectiveAt (k + 1) t with
      | none => (acc, t :: rest)
      | some op =>
        match reads k rest with
        | none => (acc, t :: rest)
        | some (b, r) => foldReads k (.bin op acc b) r := by
  unfold reads foldReads
  rw [fold.eq_2]
  rcases connectiveAt (k + 1) t with _ | op
  · rfl
  · rcases level k rest with _ | ⟨⟨b, r⟩, h⟩ <;> rfl

def opToken (s : String) : Token Tag := ⟨s, .operator⟩

theorem isOperator_iff {t : Token Tag} {s : String} : isOperator t s = true ↔ t = opToken s := by
  rcases t with ⟨l, g⟩
  simp only [isOperator, opToken, Bool.and_eq_true, beq_iff_eq, Token.mk.injEq]
  exact and_comm

theorem spelledAt?_eq_some_iff {k : Nat} {l : String} {op : Connective} :
    Connective.spelledAt? k l = some op ↔ op.tier = k ∧ l ∈ op.spellings := by
  constructor
  · intro h
    simpa using List.find?_some h
  · rintro ⟨rfl, hl⟩
    cases op <;> simp [Connective.spellings] at hl <;> rcases hl with rfl | rfl <;> decide

theorem connectiveAt_eq_some_iff {k : Nat} {t : Token Tag} {op : Connective} :
    connectiveAt k t = some op ↔ op.tier = k ∧ ∃ s ∈ op.spellings, t = opToken s := by
  rcases t with ⟨l, g⟩
  cases g <;> simp [connectiveAt, opToken, spelledAt?_eq_some_iff]

theorem connectiveAt_opToken_of_ne {k : Nat} {op : Connective} {s : String}
    (hs : s ∈ op.spellings) (hk : op.tier ≠ k) : connectiveAt k (opToken s) = none := by
  rcases h : connectiveAt k (opToken s) with _ | op'
  · rfl
  · obtain ⟨rfl, s', hs', he⟩ := connectiveAt_eq_some_iff.mp h
    have : s = s' := by simpa [opToken] using he
    subst this
    exact absurd (congrArg Connective.tier (Connective.eq_of_mem_spellings hs hs')) hk

theorem connectiveAt_paren {k : Nat} {s : String} (hs : s = "(" ∨ s = ")" ∨ s = "-") :
    connectiveAt k (opToken s) = none := by
  rcases h : connectiveAt k (opToken s) with _ | op
  · rfl
  · obtain ⟨-, s', hs', he⟩ := connectiveAt_eq_some_iff.mp h
    have : s = s' := by simpa [opToken] using he
    subst this
    cases op <;> rcases hs with rfl | rfl | rfl <;> simp [Connective.spellings] at hs'

theorem ofLexeme?_eq_some_iff {s : String} {v : Var} : Var.ofLexeme? s = some v ↔ s = v.text := by
  constructor
  · intro h
    unfold Var.ofLexeme? at h
    split at h
    · rename_i c hc
      unfold Var.ofChar? at h
      split at h
      · cases h
        exact String.toList_inj.mp (by simp [Var.text, hc])
      · cases h
    · cases h
  · rintro rfl
    simp [Var.ofLexeme?, Var.text, Var.ofChar?_name]

theorem atom_eq_some_iff {t : Token Tag} {f : Formula} :
    atom t = some f ↔
      (t = ⟨"0", .constant⟩ ∧ f = .const false) ∨ (t = ⟨"1", .constant⟩ ∧ f = .const true) ∨
        ∃ v : Var, t = ⟨v.text, .var⟩ ∧ f = .var v := by
  rcases t with ⟨l, g⟩
  cases g with
  | operator => simp [atom]
  | constant =>
    simp only [atom, beq_iff_eq, Token.mk.injEq, and_true, reduceCtorEq]
    split_ifs with h0 h1 <;> simp_all [eq_comm]
  | var =>
    simp only [atom, Option.map_eq_some_iff, ofLexeme?_eq_some_iff, Token.mk.injEq, reduceCtorEq,
      and_false, false_and, false_or, and_true]
    constructor
    · rintro ⟨v, rfl, rfl⟩
      exact ⟨v, rfl, rfl⟩
    · rintro ⟨v, rfl, rfl⟩
      exact ⟨v, rfl, rfl⟩

/-- `Derives k ts t`: the tokens `ts` form a phrase of level `k` whose tree is `t`. -/
inductive Derives : Nat → Tokens → Formula → Prop where
  | neg {ts : Tokens} {a : Formula} : Derives 0 ts a → Derives 0 (opToken "-" :: ts) (.neg a)
  | zero : Derives 0 [⟨"0", .constant⟩] (.const false)
  | one : Derives 0 [⟨"1", .constant⟩] (.const true)
  | var (v : Var) : Derives 0 [⟨v.text, .var⟩] (.var v)
  | group {ts : Tokens} {e : Formula} :
      Derives 3 ts e → Derives 0 (opToken "(" :: ts ++ [opToken ")"]) e
  | lift {k : Nat} {ts : Tokens} {a : Formula} : Derives k ts a → Derives (k + 1) ts a
  | join {k : Nat} {ts us : Tokens} {a b : Formula} {op : Connective} {s : String} :
      Derives (k + 1) ts a → op.tier = k + 1 → s ∈ op.spellings → Derives k us b →
      Derives (k + 1) (ts ++ opToken s :: us) (.bin op a b)

theorem Derives.lift_le {j k : Nat} {ts : Tokens} {t : Formula} (h : Derives j ts t) (hjk : j ≤ k) :
    Derives k ts t := by
  induction hjk with
  | refl => exact h
  | step _ ih => exact Derives.lift ih

theorem Derives.ne_nil {k : Nat} {ts : Tokens} {t : Formula} (h : Derives k ts t) : ts ≠ [] := by
  induction h with
  | lift _ ih => exact ih
  | join _ _ _ _ ih => simp
  | _ => simp

/-- No connective of tier at most `k` opens `rest`, so a phrase of level `k` cannot go on
into it. -/
def Ends (k : Nat) (rest : Tokens) : Prop := ∀ u ∈ rest.head?, ∀ j ≤ k, connectiveAt j u = none

theorem Ends.mono {j k : Nat} {rest : Tokens} (h : Ends k rest) (hjk : j ≤ k) : Ends j rest :=
  fun u hu i hi => h u hu i (hi.trans hjk)

theorem connectiveAt_zero (u : Token Tag) : connectiveAt 0 u = none := by
  rcases h : connectiveAt 0 u with _ | op
  · rfl
  · have := (connectiveAt_eq_some_iff.mp h).1
    cases op <;> simp [Connective.tier] at this

theorem ends_zero (rest : Tokens) : Ends 0 rest := fun u _ j hj => by
  rw [Nat.le_zero.mp hj]
  exact connectiveAt_zero u

theorem ends_nil (k : Nat) : Ends k [] := fun _ hu => by simp at hu

theorem ends_opToken {k : Nat} {op : Connective} {s : String} (hs : s ∈ op.spellings)
    (hk : k < op.tier) (rest : Tokens) : Ends k (opToken s :: rest) := fun u hu j hj => by
  obtain rfl : opToken s = u := Option.mem_some_iff.mp hu
  exact connectiveAt_opToken_of_ne hs (by omega)

theorem ends_rparen (k : Nat) (rest : Tokens) : Ends k (opToken ")" :: rest) := fun u hu _ _ => by
  obtain rfl : opToken ")" = u := Option.mem_some_iff.mp hu
  exact connectiveAt_paren (by simp)

theorem foldReads_of_ends {k : Nat} {acc : Formula} {rest : Tokens} (h : Ends (k + 1) rest) :
    foldReads k acc rest = (acc, rest) := by
  cases rest with
  | nil => exact foldReads_nil k acc
  | cons u r =>
    rw [foldReads_cons, h u rfl (k + 1) le_rfl]

theorem reads_of_open_fold {k : Nat} {ts : Tokens} {t : Formula}
    (h : ∀ rest, Ends k rest → reads (k + 1) (ts ++ rest) = some (foldReads k t rest))
    (rest : Tokens) (hr : Ends (k + 1) rest) : reads (k + 1) (ts ++ rest) = some (t, rest) := by
  rw [h rest (hr.mono (Nat.le_succ k)), foldReads_of_ends hr]

theorem reads_of_derives {k : Nat} {ts : Tokens} {t : Formula} (h : Derives k ts t) :
    (∀ rest, Ends k rest → reads k (ts ++ rest) = some (t, rest)) ∧
      ∀ j rest, k = j + 1 → Ends j rest → reads k (ts ++ rest) = some (foldReads j t rest) := by
  induction h with
  | neg _ ih =>
    refine ⟨fun rest _ => ?_, fun j _ hj => absurd hj (Nat.zero_ne_add_one j)⟩
    rw [reads_zero, List.cons_append, termReads_cons, if_pos (isOperator_iff.mpr rfl),
      ← reads_zero, ih.1 rest (ends_zero rest)]
    rfl
  | zero | one | var =>
    refine ⟨fun rest _ => ?_, fun j _ hj => absurd hj (Nat.zero_ne_add_one j)⟩
    simp [reads_zero, termReads_cons, isOperator, atom, Var.ofLexeme?, Var.text, Var.ofChar?_name]
  | @group ts e _ ih =>
    refine ⟨fun rest _ => ?_, fun j _ hj => absurd hj (Nat.zero_ne_add_one j)⟩
    have hin := ih.1 (opToken ")" :: rest) (ends_rparen 3 rest)
    rw [List.append_assoc, List.singleton_append] at *
    rw [reads_zero, List.cons_append, termReads_cons, if_neg (by decide),
      if_pos (isOperator_iff.mpr rfl), hin]
    simp [isOperator_iff]
  | @lift k ts a _ ih =>
    have step : ∀ rest, Ends k rest → reads (k + 1) (ts ++ rest) = some (foldReads k a rest) :=
      fun rest hr => by rw [reads_succ, ih.1 rest hr]; rfl
    refine ⟨reads_of_open_fold step, fun j rest hj hr => ?_⟩
    obtain rfl : k = j := Nat.succ.inj hj
    exact step rest hr
  | @join k ts us a b op s _ htier hs _ ihl ihr =>
    have step : ∀ rest, Ends k rest →
        reads (k + 1) ((ts ++ opToken s :: us) ++ rest) = some (foldReads k (.bin op a b) rest) := by
      intro rest hr
      have hopen := ends_opToken (k := k) hs (by omega) (us ++ rest)
      rw [List.append_assoc, List.cons_append, ihl.2 k _ rfl hopen, foldReads_cons,
        (connectiveAt_eq_some_iff.mpr ⟨htier, s, hs, rfl⟩), ihr.1 rest hr]
    refine ⟨reads_of_open_fold step, fun j rest hj hr => ?_⟩
    obtain rfl : k = j := Nat.succ.inj hj
    exact step rest hr

theorem derives_of_reads :
    ∀ k ts t r, reads k ts = some (t, r) → ∃ p, ts = p ++ r ∧ Derives k p t := by
  refine level.induct
    (fun ts => ∀ t r, termReads ts = some (t, r) → ∃ p, ts = p ++ r ∧ Derives 0 p t)
    (fun k ts => ∀ t r, reads k ts = some (t, r) → ∃ p, ts = p ++ r ∧ Derives k p t)
    (fun k acc ts => ∀ p₀, Derives (k + 1) p₀ acc → ∀ t r, foldReads k acc ts = (t, r) →
      ∃ p, ts = p ++ r ∧ Derives (k + 1) (p₀ ++ p) t)
    ?nil ?neg ?negMiss ?group ?unclosed ?groupMiss ?atom ?term ?levelMiss ?level
    ?foldNil ?foldStop ?foldNoOperand ?foldStep
  case nil =>
    intro t r h
    simp [termReads_nil] at h
  case neg =>
    intro tok rest hneg a r _ hterm ih t r' h
    have hrest : termReads rest = some (a, r) := by simp [termReads, hterm]
    rw [termReads_cons, if_pos hneg, hrest] at h
    obtain ⟨rfl, rfl⟩ : Formula.neg a = t ∧ r = r' := by simpa using h
    obtain ⟨p, rfl, hp⟩ := ih a r hrest
    refine ⟨tok :: p, rfl, ?_⟩
    rw [isOperator_iff.mp hneg]
    exact Derives.neg hp
  case negMiss =>
    intro tok rest hneg hterm _ t r h
    have hrest : termReads rest = none := by simp [termReads, hterm]
    simp [termReads_cons, hneg, hrest] at h
  case group =>
    intro tok rest hneg hopen e u r _ hlevel hclose ih t r' h
    have hrest : reads 3 rest = some (e, u :: r) := by simp [reads, hlevel]
    rw [termReads_cons, if_neg hneg, if_pos hopen, hrest] at h
    obtain ⟨rfl, rfl⟩ : e = t ∧ r = r' := by simpa [hclose] using h
    obtain ⟨p, hp, hd⟩ := ih e (u :: r) hrest
    refine ⟨opToken "(" :: p ++ [opToken ")"], ?_, Derives.group hd⟩
    rw [isOperator_iff.mp hopen, hp, isOperator_iff.mp hclose]
    simp
  case unclosed =>
    intro tok rest hneg hopen e u r _ hlevel hclose _ t r' h
    have hrest : reads 3 rest = some (e, u :: r) := by simp [reads, hlevel]
    simp [termReads_cons, hneg, hopen, hrest, hclose] at h
  case groupMiss =>
    intro tok rest hneg hopen hmiss _ t r' h
    rw [termReads_cons, if_neg hneg, if_pos hopen] at h
    rcases hlevel : level 3 rest with _ | ⟨⟨e, _ | ⟨u, r⟩⟩, hlt⟩
    · simp [reads, hlevel] at h
    · simp [reads, hlevel] at h
    · exact (hmiss e u r hlt hlevel).elim
  case atom =>
    intro tok rest hneg hopen t r h
    rw [termReads_cons, if_neg hneg, if_neg hopen] at h
    obtain ⟨f, hf, rfl, rfl⟩ : ∃ f, atom tok = some f ∧ f = t ∧ rest = r := by simpa using h
    refine ⟨[tok], rfl, ?_⟩
    rcases atom_eq_some_iff.mp hf with ⟨rfl, rfl⟩ | ⟨rfl, rfl⟩ | ⟨v, rfl, rfl⟩
    · exact Derives.zero
    · exact Derives.one
    · exact Derives.var v
  case term =>
    intro ts ih t r h
    exact ih t r (by rwa [reads_zero] at h)
  case levelMiss =>
    intro k ts hlevel _ t r h
    have hk : reads k ts = none := by simp [reads, hlevel]
    simp [Nat.succ_eq_add_one, reads_succ, hk] at h
  case level =>
    intro k ts a r _ hlevel ih ihfold t r' h
    have hk : reads k ts = some (a, r) := by simp [reads, hlevel]
    rw [reads_succ, hk] at h
    obtain ⟨p, rfl, hp⟩ := ih a r hk
    obtain ⟨q, rfl, hq⟩ := ihfold p (Derives.lift hp) t r' (by simpa using h)
    exact ⟨p ++ q, by simp, hq⟩
  case foldNil =>
    intro k acc p₀ h₀ t r h
    rw [foldReads_nil] at h
    obtain ⟨rfl, rfl⟩ := Prod.mk.inj h
    exact ⟨[], rfl, by simpa using h₀⟩
  case foldStop =>
    intro k acc tok rest hop p₀ h₀ t r h
    rw [foldReads_cons, hop] at h
    obtain ⟨rfl, rfl⟩ := Prod.mk.inj h
    exact ⟨[], rfl, by simpa using h₀⟩
  case foldNoOperand =>
    intro k acc tok rest op hop hlevel _ p₀ h₀ t r h
    have hk : reads k rest = none := by simp [reads, hlevel]
    rw [foldReads_cons, hop] at h
    simp only [hk] at h
    obtain ⟨rfl, rfl⟩ := Prod.mk.inj h
    exact ⟨[], rfl, by simpa using h₀⟩
  case foldStep =>
    intro k acc tok rest op hop b r _ hlevel ih ihfold p₀ h₀ t r' h
    have hk : reads k rest = some (b, r) := by simp [reads, hlevel]
    rw [foldReads_cons, hop] at h
    simp only [hk] at h
    obtain ⟨q, rfl, hq⟩ := ih b r hk
    obtain ⟨htier, s, hs, rfl⟩ := connectiveAt_eq_some_iff.mp hop
    obtain ⟨q', rfl, hq'⟩ := ihfold (p₀ ++ opToken s :: q) (Derives.join h₀ htier hs hq) t r' h
    exact ⟨opToken s :: q ++ q', by simp, by simpa using hq'⟩

theorem parse_value_eq_ok_iff {ts : Tokens} {e : Formula} :
    (parse ts).value = .ok e ↔ ts ≠ [] ∧ reads 3 ts = some (e, []) := by
  cases ts with
  | nil => simp [parse]
  | cons t rest =>
    simp only [parse, expression, ne_eq, reduceCtorEq, not_false_eq_true, true_and, reads]
    rcases level 3 (t :: rest) with _ | ⟨⟨f, _ | ⟨u, r⟩⟩, h⟩ <;> simp [eq_comm]

theorem Derives.unique {ts : Tokens} {e e' : Formula} (h : Derives 3 ts e) (h' : Derives 3 ts e') :
    e = e' := by
  have hr := (reads_of_derives h).1 [] (ends_nil 3)
  have hr' := (reads_of_derives h').1 [] (ends_nil 3)
  rw [hr] at hr'
  exact (Prod.mk.inj (Option.some.inj hr')).1

/-- The reader accepts exactly the sentences of the grammar, and yields the tree of their
derivation; since it is a function, that derivation is unique. -/
theorem parse_ok_iff_derives (ts : Tokens) (e : Formula) :
    (parse ts).value = .ok e ↔ Derives 3 ts e := by
  rw [parse_value_eq_ok_iff]
  constructor
  · rintro ⟨-, h⟩
    obtain ⟨p, rfl, hp⟩ := derives_of_reads 3 ts e [] h
    simpa using hp
  · intro h
    exact ⟨h.ne_nil, by simpa using (reads_of_derives h).1 [] (ends_nil 3)⟩

theorem readAt_advances (reader : (ts : Tokens) → Read ts) (ts : Tokens) (pos : Nat) {f : Formula}
    {q : Nat} (h : readAt reader ts pos = some (f, q)) : pos < q ∧ q ≤ ts.length := by
  simp only [readAt, Option.map_eq_some_iff] at h
  obtain ⟨⟨⟨f', rest⟩, hrest⟩, -, hq⟩ := h
  simp only [Prod.mk.injEq] at hq
  simp only [List.length_drop] at hrest
  omega

/-- A term, any level of connectives and a whole expression, read from any position, end strictly
after it and within the tokens. -/
theorem read_advances (ts : Tokens) (pos : Nat) :
    (∀ f q, readAt term ts pos = some (f, q) → pos < q ∧ q ≤ ts.length) ∧
    (∀ k f q, readAt (level k) ts pos = some (f, q) → pos < q ∧ q ≤ ts.length) ∧
    (∀ f q, readAt expression ts pos = some (f, q) → pos < q ∧ q ≤ ts.length) :=
  ⟨fun _ _ => readAt_advances term ts pos, fun k _ _ => readAt_advances (level k) ts pos,
    fun _ _ => readAt_advances expression ts pos⟩

end Grammar

end PropCalc
