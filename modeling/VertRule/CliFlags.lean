import VertRule.Cli
import Mathlib.Data.Nat.Digits.Defs

/-!
# The flags of the command line

Which flags `parse_limit_args` and `parse_trust_arg` accept, and what they set
(`parseLimitArgs_eq_ok`, `parseTrustArg_eq_ok`): a flag may be repeated, and its last value counts.
-/

namespace VertRule

namespace Cli

open Flags

/-! ### Numerals -/

/-- The value of a digit. -/
def digitValue (c : Char) : ℕ := c.toNat - '0'.toNat

/-- `raw` spells `n` in decimal digits, perhaps after one `+`. -/
def Numeral (raw : String) (n : ℕ) : Prop :=
  ∃ digits : List Char, digits ≠ [] ∧ (raw.toList = digits ∨ raw.toList = '+' :: digits) ∧
    (∀ c ∈ digits, c.isDigit = true) ∧ n = Nat.ofDigits 10 (digits.reverse.map digitValue)

variable {maxUsize value n : ℕ} {digits : List Char} {raw : String}

theorem addDigit_eq_some {c : Char} {value' : ℕ} :
    addDigit maxUsize value c = some value' ↔
      c.isDigit = true ∧ value' = value * 10 + digitValue c ∧ value' ≤ maxUsize := by
  unfold addDigit digitValue
  split_ifs with h
  · simp only [Option.some.injEq, eq_comm (a := value')]
    exact ⟨fun he => ⟨h.1, he, he ▸ h.2⟩, fun he => he.2.1⟩
  · simp only [false_iff]
    rintro ⟨hd, rfl, hle⟩
    exact h ⟨hd, hle⟩

/-- The checks against overflow refuse what does not fit in the end: the value only grows. -/
theorem foldlM_addDigit_eq_some (hv : value ≤ maxUsize) :
    digits.foldlM (addDigit maxUsize) value = some n ↔
      (∀ c ∈ digits, c.isDigit = true) ∧
        n = value * 10 ^ digits.length + Nat.ofDigits 10 (digits.reverse.map digitValue) ∧
        n ≤ maxUsize := by
  induction digits generalizing value with
  | nil =>
    simp only [List.foldlM_nil, Option.pure_def, Option.some.injEq, List.not_mem_nil,
      IsEmpty.forall_iff, implies_true, List.length_nil, pow_zero, mul_one, List.reverse_nil,
      List.map_nil, Nat.ofDigits_nil, add_zero, true_and]
    exact ⟨fun h => ⟨h.symm, h ▸ hv⟩, fun h => h.1.symm⟩
  | cons c digits ih =>
    have hsplit : value * 10 ^ (c :: digits).length +
        Nat.ofDigits 10 ((c :: digits).reverse.map digitValue) =
        (value * 10 + digitValue c) * 10 ^ digits.length +
          Nat.ofDigits 10 (digits.reverse.map digitValue) := by
      rw [List.reverse_cons, List.map_append, Nat.ofDigits_append]
      simp only [List.length_cons, List.length_map, List.length_reverse, List.map_cons,
        List.map_nil, Nat.ofDigits_singleton]
      ring
    rw [List.foldlM_cons, Option.bind_eq_bind, Option.bind_eq_some_iff, hsplit,
      List.forall_mem_cons]
    constructor
    · rintro ⟨value', hadd, hfold⟩
      obtain ⟨hd, rfl, hle⟩ := addDigit_eq_some.1 hadd
      obtain ⟨hall, hn, hmax⟩ := (ih hle).1 hfold
      exact ⟨⟨hd, hall⟩, hn, hmax⟩
    · rintro ⟨⟨hd, hall⟩, hn, hmax⟩
      have hle : value * 10 + digitValue c ≤ maxUsize := by
        have hpow : value * 10 + digitValue c ≤
            (value * 10 + digitValue c) * 10 ^ digits.length :=
          Nat.le_mul_of_pos_right _ (by positivity)
        omega
      exact ⟨_, addDigit_eq_some.2 ⟨hd, rfl, hle⟩, (ih hle).2 ⟨hall, hn, hmax⟩⟩

/-- **`str::parse` reads the numerals that fit.** -/
theorem parseUsize_eq_some :
    parseUsize maxUsize raw = some n ↔ Numeral raw n ∧ n ≤ maxUsize := by
  have hfold : ∀ digits : List Char, digits.foldlM (addDigit maxUsize) 0 = some n ↔
      (∀ c ∈ digits, c.isDigit = true) ∧ n = Nat.ofDigits 10 (digits.reverse.map digitValue) ∧
        n ≤ maxUsize := by
    intro digits
    rw [foldlM_addDigit_eq_some (Nat.zero_le _), zero_mul, zero_add]
  have hplus : '+'.isDigit = false := by decide
  unfold parseUsize Numeral
  split
  next h => simp [h]
  next h =>
    simp only [h, reduceCtorEq, false_iff]
    rintro ⟨⟨digits, hne, rfl | htail, hall, -⟩, -⟩
    · simpa [hplus] using hall '+'
    · exact hne (List.cons.inj htail).2.symm
  next digits hne h =>
    rw [hfold]
    constructor
    · rintro ⟨hall, hn, hmax⟩
      refine ⟨⟨digits, ?_, .inr h, hall, hn⟩, hmax⟩
      rintro rfl
      exact hne rfl
    · rintro ⟨⟨digits', -, h' | h', hall, hn⟩, hmax⟩
      · have := hall '+' (by simp [← h', h])
        simp [hplus] at this
      · obtain rfl : digits = digits' := (List.cons.inj (h.symm.trans h')).2
        exact ⟨hall, hn, hmax⟩
  next hnil _ hcons =>
    rw [hfold]
    constructor
    · rintro ⟨hall, hn, hmax⟩
      exact ⟨⟨raw.toList, hnil, .inl rfl, hall, hn⟩, hmax⟩
    · rintro ⟨⟨digits', -, h' | h', hall, hn⟩, hmax⟩
      · rw [h']
        exact ⟨hall, hn, hmax⟩
      · exact absurd h' (hcons digits')

/-! ### Settings -/

/-- A setting of a limit flag to `n`. -/
structure Sets (maxUsize : ℕ) (flag : String) (setting : Setting String) (n : ℕ) : Prop where
  token : setting.1 = flag
  numeral : Numeral setting.2 n
  pos : 0 < n
  le : n ≤ maxUsize

/-- `n` is what the last setting of a flag sets. -/
def LastSet (maxUsize : ℕ) (flag : String) (settings : List (Setting String)) (n : ℕ) : Prop :=
  ∃ before setting after, settings = before ++ setting :: after ∧ Sets maxUsize flag setting n ∧
    ∀ later ∈ after, later.1 ≠ flag

/-- `flags` is a sequence of settings of limit flags, `--max-chain-length` only where it is allowed,
and `limits` holds what the last of each sets. -/
def LimitsSpelled (maxUsize : ℕ) (allowChainLength : Bool) (flags : List String)
    (limits : LimitArgs) : Prop :=
  ∃ settings, flags = tokensOf settings ∧
    (∀ s ∈ settings, ∃ n, Sets maxUsize "--max-bytes" s n ∨
      allowChainLength = true ∧ Sets maxUsize "--max-chain-length" s n) ∧
    (∀ n, limits.maxBytes = some n ↔ LastSet maxUsize "--max-bytes" settings n) ∧
    ∀ n, limits.maxChainLength = some n ↔ LastSet maxUsize "--max-chain-length" settings n

variable {flag : String} {allow : Bool} {setting : Setting String} {flags : List String}
  {limits : LimitArgs} {settings : List (Setting String)}

theorem parseLimitValue_eq_ok :
    parseLimitValue maxUsize flag raw = .ok n ↔ Numeral raw n ∧ 0 < n ∧ n ≤ maxUsize := by
  unfold parseLimitValue
  cases hp : parseUsize maxUsize raw with
  | none =>
    simp only [reduceCtorEq, false_iff]
    rintro ⟨hn, -, hle⟩
    rw [parseUsize_eq_some.2 ⟨hn, hle⟩] at hp
    cases hp
  | some value =>
    have hread : ∀ m, Numeral raw m ∧ m ≤ maxUsize ↔ value = m := by
      intro m
      rw [← parseUsize_eq_some, hp, Option.some.injEq]
    dsimp only
    rw [Except.ite_error_eq_ok, Except.ok.injEq, ← hread n]
    constructor
    · rintro ⟨hne, hn, hle⟩
      have hval := (hread n).1 ⟨hn, hle⟩
      exact ⟨hn, by omega, hle⟩
    · rintro ⟨hn, hpos, hle⟩
      have hval := (hread n).1 ⟨hn, hle⟩
      exact ⟨by omega, hn, hle⟩

theorem limitFlag_read {set : ℕ → LimitArgs → LimitArgs} {update : LimitArgs → LimitArgs}
    (ht : setting.1 = flag) :
    (limitFlag maxUsize flag set).read setting.2 = .ok update ↔
      ∃ n, Sets maxUsize flag setting n ∧ update = set n := by
  have hsets : ∀ n, parseLimitValue maxUsize flag setting.2 = .ok n ↔
      Sets maxUsize flag setting n := fun n =>
    parseLimitValue_eq_ok.trans
      ⟨fun h => ⟨ht, h.1, h.2.1, h.2.2⟩, fun h => ⟨h.numeral, h.pos, h.le⟩⟩
  simp only [limitFlag, ← hsets]
  cases parseLimitValue maxUsize flag setting.2 with
  | error e => simp [Except.map]
  | ok n => simp [Except.map, eq_comm]

/-- What the settings of the limit flags are read to. -/
theorem reading_limitFlags {update : LimitArgs → LimitArgs} :
    reading (limitFlags maxUsize allow) setting = some update ↔
      (∃ n, Sets maxUsize "--max-bytes" setting n ∧
        update = fun parsed => { parsed with maxBytes := some n }) ∨
      allow = true ∧ ∃ n, Sets maxUsize "--max-chain-length" setting n ∧
        update = fun parsed => { parsed with maxChainLength := some n } := by
  have hnodup : ((limitFlags maxUsize allow).map Flag.token).Nodup := by
    cases allow <;> simp [limitFlags, limitFlag]
  simp only [reading_eq_some, flagOf_eq_some hnodup]
  simp only [limitFlags, List.mem_cons]
  constructor
  · rintro ⟨f, ⟨rfl | hf, ht⟩, hread⟩
    · exact .inl ((limitFlag_read ht.symm).1 hread)
    · split_ifs at hf with ha
      · obtain rfl := List.mem_singleton.1 hf
        exact .inr ⟨ha, (limitFlag_read ht.symm).1 hread⟩
      · cases hf
  · rintro (⟨n, hs, rfl⟩ | ⟨ha, n, hs, rfl⟩)
    · exact ⟨_, ⟨.inl rfl, hs.token.symm⟩, (limitFlag_read hs.token).2 ⟨n, hs, rfl⟩⟩
    · subst ha
      exact ⟨_, ⟨.inr (List.mem_singleton_self _), hs.token.symm⟩,
        (limitFlag_read hs.token).2 ⟨n, hs, rfl⟩⟩

/-- A setting is read when it sets one of the limits that are allowed. -/
theorem reading_limitFlags_isSome :
    (reading (limitFlags maxUsize allow) setting).isSome = true ↔
      ∃ n, Sets maxUsize "--max-bytes" setting n ∨
        allow = true ∧ Sets maxUsize "--max-chain-length" setting n := by
  simp only [Option.isSome_iff_exists, reading_limitFlags, exists_or]
  constructor
  · rintro (⟨_, n, hs, -⟩ | ⟨_, ha, n, hs, -⟩)
    · exact .inl ⟨n, hs⟩
    · exact .inr ⟨n, ha, hs⟩
  · rintro (⟨n, hs⟩ | ⟨n, ha, hs⟩)
    · exact .inl ⟨_, n, hs, rfl⟩
    · exact .inr ⟨_, ha, n, hs, rfl⟩

/-- A limit, as a register that the settings of its flag write. -/
theorem foldl_limit {look : LimitArgs → Option ℕ} {written : Setting String → Option ℕ}
    (hkeeps : Register.Keeps (Flags.apply (limitFlags maxUsize allow)) look written)
    (hlook : look {} = none)
    (hset : ∀ s ∈ settings, ∀ n, written s = some n ↔ Sets maxUsize flag s n)
    (hall : ∀ s ∈ settings, s.1 = flag → ∃ n, Sets maxUsize flag s n) :
    look (settings.foldl (Flags.apply (limitFlags maxUsize allow)) {}) = some n ↔
      LastSet maxUsize flag settings n := by
  rw [hkeeps.look_foldl_eq_some hlook]
  refine exists_congr fun before => exists_congr fun s => exists_congr fun after => ?_
  refine and_congr_right ?_
  rintro rfl
  have hafter : ∀ later ∈ after, written later = none ↔ later.1 ≠ flag := by
    intro later hl
    have hmem : later ∈ before ++ s :: after := by simp [hl]
    constructor
    · rintro hw ht
      obtain ⟨n, hn⟩ := hall later hmem ht
      rw [(hset later hmem n).2 hn] at hw
      cases hw
    · intro hne
      cases hw : written later with
      | none => rfl
      | some n => exact absurd ((hset later hmem n).1 hw).token hne
  rw [hset s (by simp)]
  exact and_congr_right fun _ => forall₂_congr hafter

/-- What a setting writes to a limit. -/
def written (maxUsize : ℕ) (allow : Bool) (look : LimitArgs → Option ℕ) (s : Setting String) :
    Option ℕ :=
  (reading (limitFlags maxUsize allow) s).bind fun update => look (update {})

theorem keeps_limit {look : LimitArgs → Option ℕ}
    (hlook : look = LimitArgs.maxBytes ∨ look = LimitArgs.maxChainLength) :
    Register.Keeps (Flags.apply (limitFlags maxUsize allow)) look
      (written maxUsize allow look) := by
  refine keeps_apply (fun s update hs r => ?_) fun s hs => by simp [written, hs]
  rw [written, hs, Option.bind_some]
  obtain rfl | rfl := hlook
  · rcases reading_limitFlags.1 hs with ⟨n, -, rfl⟩ | ⟨-, n, -, rfl⟩ <;> simp
  · rcases reading_limitFlags.1 hs with ⟨n, -, rfl⟩ | ⟨-, n, -, rfl⟩ <;> simp

theorem written_maxBytes :
    written maxUsize allow LimitArgs.maxBytes setting = some n ↔
      Sets maxUsize "--max-bytes" setting n := by
  simp only [written, Option.bind_eq_some_iff, reading_limitFlags]
  constructor
  · rintro ⟨_, ⟨m, hs, rfl⟩ | ⟨-, m, -, rfl⟩, hn⟩
    · obtain rfl := Option.some.inj hn
      exact hs
    · cases hn
  · exact fun hs => ⟨_, .inl ⟨n, hs, rfl⟩, rfl⟩

theorem written_maxChainLength :
    written maxUsize allow LimitArgs.maxChainLength setting = some n ↔
      allow = true ∧ Sets maxUsize "--max-chain-length" setting n := by
  simp only [written, Option.bind_eq_some_iff, reading_limitFlags]
  constructor
  · rintro ⟨_, ⟨m, -, rfl⟩ | ⟨ha, m, hs, rfl⟩, hn⟩
    · cases hn
    · obtain rfl := Option.some.inj hn
      exact ⟨ha, hs⟩
  · rintro ⟨ha, hs⟩
    exact ⟨_, .inr ⟨ha, n, hs, rfl⟩, rfl⟩

/-- What the settings of the limit flags leave. -/
theorem foldl_limits
    (hall : ∀ s ∈ settings, ∃ n, Sets maxUsize "--max-bytes" s n ∨
      allow = true ∧ Sets maxUsize "--max-chain-length" s n) :
    let limits := settings.foldl (Flags.apply (limitFlags maxUsize allow)) {}
    (∀ n, limits.maxBytes = some n ↔ LastSet maxUsize "--max-bytes" settings n) ∧
      ∀ n, limits.maxChainLength = some n ↔ LastSet maxUsize "--max-chain-length" settings n := by
  have hne : "--max-bytes" ≠ "--max-chain-length" := by decide
  refine ⟨fun n => ?_, fun n => ?_⟩
  · refine foldl_limit (keeps_limit (.inl rfl)) rfl (fun s _ n => written_maxBytes)
      fun s hs ht => ?_
    obtain ⟨n, hn | ⟨-, hn⟩⟩ := hall s hs
    · exact ⟨n, hn⟩
    · exact absurd (ht.symm.trans hn.token) hne
  · refine foldl_limit (keeps_limit (.inr rfl)) rfl (fun s hs n => ?_) fun s hs ht => ?_
    · rw [written_maxChainLength, and_iff_right_iff_imp]
      intro hchain
      obtain ⟨m, hm | ⟨ha, -⟩⟩ := hall s hs
      · exact absurd (hm.token.symm.trans hchain.token) hne
      · exact ha
    · obtain ⟨n, hn | ⟨-, hn⟩⟩ := hall s hs
      · exact absurd (hn.token.symm.trans ht) hne
      · exact ⟨n, hn⟩

theorem limitArgs_ext {limits limits' : LimitArgs} (hb : limits.maxBytes = limits'.maxBytes)
    (hc : limits.maxChainLength = limits'.maxChainLength) : limits = limits' := by
  cases limits
  cases limits'
  cases hb
  cases hc
  rfl

/-- **`parse_limit_args` accepts the sequences of settings, and the last of each flag counts.** -/
theorem parseLimitArgs_eq_ok :
    parseLimitArgs maxUsize flags allow = .ok limits ↔
      LimitsSpelled maxUsize allow flags limits := by
  rw [parseLimitArgs, parse_eq_ok]
  simp only [reading_limitFlags_isSome, LimitsSpelled]
  refine exists_congr fun settings => and_congr_right fun _ => and_congr_right fun hall => ?_
  obtain ⟨hb, hc⟩ := foldl_limits hall
  constructor
  · rintro rfl
    exact ⟨hb, hc⟩
  · rintro ⟨hb', hc'⟩
    exact limitArgs_ext (Option.ext fun n => (hb' n).trans (hb n).symm)
      (Option.ext fun n => (hc' n).trans (hc n).symm)

/-! ### Offences -/

/-- A flag that may be set. -/
def Allowed (allowChainLength : Bool) (flag : String) : Prop :=
  flag = "--max-bytes" ∨ allowChainLength = true ∧ flag = "--max-chain-length"

/-- Flags are refused at their head, with an error. -/
inductive LimitOffence (maxUsize : ℕ) (allowChainLength : Bool) : List String → String → Prop where
  | unexpected {token : String} {rest : List String} (h : ¬ Allowed allowChainLength token) :
    LimitOffence maxUsize allowChainLength (token :: rest) s!"unexpected argument \"{token}\""
  | missing {flag : String} (h : Allowed allowChainLength flag) :
    LimitOffence maxUsize allowChainLength [flag] s!"{flag} requires a value"
  | zero {flag raw : String} {rest : List String} (h : Allowed allowChainLength flag)
    (hraw : Numeral raw 0) :
    LimitOffence maxUsize allowChainLength (flag :: raw :: rest) s!"{flag} must be greater than 0"
  | malformed {flag raw : String} {rest : List String} (h : Allowed allowChainLength flag)
    (hraw : ∀ n, Numeral raw n → maxUsize < n) :
    LimitOffence maxUsize allowChainLength (flag :: raw :: rest)
      s!"{flag} expects a non-negative integer, got \"{raw}\""

theorem parseLimitValue_eq_error {e : String} :
    parseLimitValue maxUsize flag raw = .error e ↔
      (Numeral raw 0 ∧ e = s!"{flag} must be greater than 0") ∨
      (∀ n, Numeral raw n → maxUsize < n) ∧
        e = s!"{flag} expects a non-negative integer, got \"{raw}\"" := by
  unfold parseLimitValue
  cases hp : parseUsize maxUsize raw with
  | none =>
    have hlt : ∀ n, Numeral raw n → maxUsize < n := by
      intro n hn
      by_contra hle
      rw [parseUsize_eq_some.2 ⟨hn, not_lt.1 hle⟩] at hp
      cases hp
    dsimp only
    rw [Except.error.injEq, eq_comm (b := e)]
    constructor
    · exact fun he => .inr ⟨hlt, he⟩
    · rintro (⟨hzero, -⟩ | ⟨-, he⟩)
      · exact absurd (hlt 0 hzero) (Nat.not_lt_zero _)
      · exact he
  | some value =>
    obtain ⟨hvalue, hle⟩ := parseUsize_eq_some.1 hp
    dsimp only
    split_ifs with hzero
    · subst hzero
      rw [Except.error.injEq, eq_comm (b := e)]
      constructor
      · exact fun he => .inl ⟨hvalue, he⟩
      · rintro (⟨-, he⟩ | ⟨hlt, -⟩)
        · exact he
        · exact absurd (hlt 0 hvalue) (Nat.not_lt_zero _)
    · simp only [false_iff]
      rintro (⟨hz, -⟩ | ⟨hlt, -⟩)
      · rw [parseUsize_eq_some.2 ⟨hz, Nat.zero_le _⟩, Option.some.injEq] at hp
        exact hzero hp.symm
      · exact absurd (hlt value hvalue) (not_lt.2 hle)

theorem exists_limitFlag (maxUsize : ℕ) (h : Allowed allow flag) :
    ∃ set, flagOf (limitFlags maxUsize allow) flag = some (limitFlag maxUsize flag set) := by
  obtain rfl | ⟨rfl, rfl⟩ := h
  · exact ⟨_, by simp [flagOf, limitFlags, limitFlag]; rfl⟩
  · exact ⟨_, by simp [flagOf, limitFlags, limitFlag]; rfl⟩

theorem flagOf_limitFlags_eq_none :
    flagOf (limitFlags maxUsize allow) flag = none ↔ ¬ Allowed allow flag := by
  constructor
  · intro hnone h
    obtain ⟨set, hset⟩ := exists_limitFlag maxUsize h
    rw [hset] at hnone
    cases hnone
  · intro h
    simp only [Allowed, not_or, not_and] at h
    obtain ⟨hb, hc⟩ := h
    cases allow <;>
      simp_all [flagOf, limitFlags, limitFlag, eq_comm]

theorem limitFlag_read_eq_error {set : ℕ → LimitArgs → LimitArgs} {e : String} :
    (limitFlag maxUsize flag set).read raw = .error e ↔
      parseLimitValue maxUsize flag raw = .error e := by
  simp only [limitFlag]
  cases parseLimitValue maxUsize flag raw <;> simp [Except.map]

/-- The offences of limit flags. -/
theorem offends_limitFlags {rest : List String} {e : String} :
    Offends (limitFlags maxUsize allow) unexpectedArgument rest e ↔
      LimitOffence maxUsize allow rest e := by
  have hof : ∀ {token f}, flagOf (limitFlags maxUsize allow) token = some f →
      Allowed allow token ∧ ∃ set, f = limitFlag maxUsize token set := by
    intro token f hf
    by_cases ha : Allowed allow token
    · obtain ⟨set, hset⟩ := exists_limitFlag maxUsize ha
      exact ⟨ha, set, Option.some.inj (hf.symm.trans hset)⟩
    · rw [flagOf_limitFlags_eq_none.2 ha] at hf
      cases hf
  constructor
  · intro h
    cases h with
    | unexpected hnone => exact .unexpected (flagOf_limitFlags_eq_none.1 hnone)
    | missing hf =>
      obtain ⟨ha, set, rfl⟩ := hof hf
      exact .missing ha
    | refused hf hraw =>
      obtain ⟨ha, set, rfl⟩ := hof hf
      rcases parseLimitValue_eq_error.1 (limitFlag_read_eq_error.1 hraw) with
        ⟨hzero, rfl⟩ | ⟨hlt, rfl⟩
      · exact .zero ha hzero
      · exact .malformed ha hlt
  · intro h
    cases h with
    | unexpected hna => exact .unexpected (flagOf_limitFlags_eq_none.2 hna)
    | missing ha =>
      obtain ⟨set, hset⟩ := exists_limitFlag maxUsize ha
      exact .missing hset
    | zero ha hzero =>
      obtain ⟨set, hset⟩ := exists_limitFlag maxUsize ha
      exact .refused hset
        (limitFlag_read_eq_error.2 (parseLimitValue_eq_error.2 (.inl ⟨hzero, rfl⟩)))
    | malformed ha hlt =>
      obtain ⟨set, hset⟩ := exists_limitFlag maxUsize ha
      exact .refused hset
        (limitFlag_read_eq_error.2 (parseLimitValue_eq_error.2 (.inr ⟨hlt, rfl⟩)))

/-- **`parse_limit_args` refuses flags for the first offence**, after settings. -/
theorem parseLimitArgs_eq_error {e : String} :
    parseLimitArgs maxUsize flags allow = .error e ↔
      ∃ settings rest, flags = tokensOf settings ++ rest ∧
        (∀ s ∈ settings, ∃ n, Sets maxUsize "--max-bytes" s n ∨
          allow = true ∧ Sets maxUsize "--max-chain-length" s n) ∧
        LimitOffence maxUsize allow rest e := by
  rw [parseLimitArgs, parse_eq_error]
  simp only [reading_limitFlags_isSome, offends_limitFlags]

/-! ### The trust flag -/

/-- `flags` is a sequence of settings of `--trust`, and `trust` is the path of the last. -/
def TrustSpelled (flags : List String) (trust : Option String) : Prop :=
  ∃ settings : List (Setting String), flags = tokensOf settings ∧
    (∀ s ∈ settings, s.1 = "--trust") ∧ trust = settings.getLast?.map Prod.snd

theorem reading_trustFlags {update : Option String → Option String} :
    reading trustFlags setting = some update ↔
      setting.1 = "--trust" ∧ update = fun _ => some setting.2 := by
  have hnodup : (trustFlags.map Flag.token).Nodup := by simp [trustFlags]
  simp only [reading_eq_some, flagOf_eq_some hnodup]
  simp only [trustFlags, List.mem_singleton]
  constructor
  · rintro ⟨_, ⟨rfl, ht⟩, hread⟩
    exact ⟨ht.symm, (Except.ok.inj hread).symm⟩
  · rintro ⟨ht, rfl⟩
    exact ⟨_, ⟨rfl, ht.symm⟩, rfl⟩

/-- **`parse_trust_arg` accepts the sequences of settings, and the last counts.** -/
theorem parseTrustArg_eq_ok {trust : Option String} :
    parseTrustArg flags = .ok trust ↔ TrustSpelled flags trust := by
  have hsome : ∀ s, (reading trustFlags s).isSome = true ↔ s.1 = "--trust" := by
    intro s
    simp [Option.isSome_iff_exists, reading_trustFlags]
  have hfold : ∀ (settings : List (Setting String)) record, (∀ s ∈ settings, s.1 = "--trust") →
      settings.foldl (Flags.apply trustFlags) record =
        (settings.getLast?.map Prod.snd).or record := by
    intro settings record hall
    induction settings using List.reverseRecOn with
    | nil => rfl
    | append_singleton settings s _ =>
      have hs : reading trustFlags s = some fun _ => some s.2 :=
        reading_trustFlags.2 ⟨hall s (by simp), rfl⟩
      simp [Flags.apply, hs]
  rw [parseTrustArg, parse_eq_ok]
  simp only [hsome, TrustSpelled]
  refine exists_congr fun settings => and_congr_right fun _ => and_congr_right fun hall => ?_
  rw [hfold settings none hall, Option.or_none]

end Cli

end VertRule
