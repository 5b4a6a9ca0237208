import VertRule.Lib.Except
import VertRule.Lib.Register
import Mathlib.Data.List.Induction
import Mathlib.Data.List.Nodup

/-!
# Flags that take a value

A command line of flags, each followed by its value, read from left to right into a record.  It is
accepted exactly when it is a sequence of settings that are all read (`parse_eq_ok`), it is refused
at its first offence (`parse_eq_error`), and a field of the record is then a register that holds the
last value set.
-/

namespace Flags

variable {τ ρ ε : Type*}

/-- A flag: its token, the error when no value follows it, and what its value sets. -/
structure Flag (τ ρ ε : Type*) where
  token : τ
  missing : ε
  read : τ → Except ε (ρ → ρ)

/-- A flag and its value. -/
abbrev Setting (τ : Type*) := τ × τ

/-- The tokens of settings. -/
def tokensOf (settings : List (Setting τ)) : List τ := settings.flatMap fun s => [s.1, s.2]

@[simp] theorem tokensOf_nil : tokensOf ([] : List (Setting τ)) = [] := rfl

@[simp] theorem tokensOf_cons (setting : Setting τ) (settings : List (Setting τ)) :
    tokensOf (setting :: settings) = setting.1 :: setting.2 :: tokensOf settings := rfl

variable [DecidableEq τ] (flags : List (Flag τ ρ ε)) (unexpected : τ → ε)

/-- The flag of a token. -/
def flagOf (token : τ) : Option (Flag τ ρ ε) := flags.find? (·.token = token)

/-- Reads the tokens into the record. -/
def parse (record : ρ) : List τ → Except ε ρ
  | [] => .ok record
  | token :: tokens =>
    match flagOf flags token, tokens with
    | none, _ => .error (unexpected token)
    | some flag, [] => .error flag.missing
    | some flag, raw :: tokens =>
      match flag.read raw with
      | .error e => .error e
      | .ok set => parse (set record) tokens

/-- What a setting is read to, when it is. -/
def reading (setting : Setting τ) : Option (ρ → ρ) :=
  (flagOf flags setting.1).bind fun flag => (flag.read setting.2).toOption

/-- The record after a setting. -/
def apply (record : ρ) (setting : Setting τ) : ρ :=
  ((reading flags setting).map (· record)).getD record

/-- Tokens are refused at their head. -/
inductive Offends : List τ → ε → Prop where
  | unexpected {token : τ} {tokens : List τ} (h : flagOf flags token = none) :
    Offends (token :: tokens) (unexpected token)
  | missing {token : τ} {flag : Flag τ ρ ε} (h : flagOf flags token = some flag) :
    Offends [token] flag.missing
  | refused {token raw : τ} {tokens : List τ} {flag : Flag τ ρ ε} {e : ε}
    (h : flagOf flags token = some flag) (hraw : flag.read raw = .error e) :
    Offends (token :: raw :: tokens) e

variable {flags unexpected} {record record' : ρ} {settings : List (Setting τ)} {tokens : List τ}

/-- Where flags have distinct tokens, a token has the flag that bears it. -/
theorem flagOf_eq_some (hd : (flags.map Flag.token).Nodup) {token : τ} {flag : Flag τ ρ ε} :
    flagOf flags token = some flag ↔ flag ∈ flags ∧ flag.token = token := by
  constructor
  · intro h
    exact ⟨List.mem_of_find?_eq_some h, by simpa using List.find?_some h⟩
  · rintro ⟨hmem, rfl⟩
    cases h : flagOf flags flag.token with
    | none => simpa using List.find?_eq_none.1 h flag hmem
    | some other =>
      have htoken : other.token = flag.token := by simpa using List.find?_some h
      rw [List.inj_on_of_nodup_map hd (List.mem_of_find?_eq_some h) hmem htoken]

theorem reading_eq_some {setting : Setting τ} {set : ρ → ρ} :
    reading flags setting = some set ↔
      ∃ flag, flagOf flags setting.1 = some flag ∧ flag.read setting.2 = .ok set := by
  rw [reading, Option.bind_eq_some_iff]
  refine exists_congr fun flag => and_congr_right fun _ => ?_
  cases flag.read setting.2 <;> simp [Except.toOption]

/-- One setting that is read. -/
theorem parse_setting {setting : Setting τ} (h : (reading flags setting).isSome = true) :
    parse flags unexpected record (setting.1 :: setting.2 :: tokens) =
      parse flags unexpected (apply flags record setting) tokens := by
  obtain ⟨set, hset⟩ := Option.isSome_iff_exists.1 h
  obtain ⟨flag, hflag, hread⟩ := reading_eq_some.1 hset
  simp [parse, hflag, hread, apply, hset]

/-- **Settings that are read come before the rest.** -/
theorem parse_tokensOf_append (h : ∀ s ∈ settings, (reading flags s).isSome = true) :
    parse flags unexpected record (tokensOf settings ++ tokens) =
      parse flags unexpected (settings.foldl (apply flags) record) tokens := by
  induction settings generalizing record with
  | nil => rfl
  | cons setting settings ih =>
    obtain ⟨hsetting, hsettings⟩ := List.forall_mem_cons.1 h
    rw [tokensOf_cons, List.cons_append, List.cons_append, parse_setting hsetting, ih hsettings]
    rfl

theorem parse_of_offends {e : ε} (h : Offends flags unexpected tokens e) :
    parse flags unexpected record tokens = .error e := by
  cases h with
  | unexpected h => simp [parse, h]
  | missing h => simp [parse, h]
  | refused h hraw => simp [parse, h, hraw]

/-- Tokens are settings that are read, and then nothing or an offence. -/
theorem exists_settings (flags : List (Flag τ ρ ε)) (unexpected : τ → ε) (tokens : List τ) :
    ∃ settings rest, tokens = tokensOf settings ++ rest ∧
      (∀ s ∈ settings, (reading flags s).isSome = true) ∧
      (rest = [] ∨ ∃ e, Offends flags unexpected rest e) := by
  induction tokens using List.twoStepInduction with
  | nil => exact ⟨[], [], rfl, by simp, .inl rfl⟩
  | singleton token =>
    cases hflag : flagOf flags token with
    | none => exact ⟨[], [token], rfl, by simp, .inr ⟨_, .unexpected hflag⟩⟩
    | some flag => exact ⟨[], [token], rfl, by simp, .inr ⟨_, .missing hflag⟩⟩
  | cons_cons token raw tokens ih _ =>
    cases hflag : flagOf flags token with
    | none => exact ⟨[], token :: raw :: tokens, rfl, by simp, .inr ⟨_, .unexpected hflag⟩⟩
    | some flag =>
      cases hread : flag.read raw with
      | error e =>
        exact ⟨[], token :: raw :: tokens, rfl, by simp, .inr ⟨e, .refused hflag hread⟩⟩
      | ok set =>
        obtain ⟨settings, rest, rfl, hall, hrest⟩ := ih
        have hset : reading flags (token, raw) = some set := reading_eq_some.2 ⟨flag, hflag, hread⟩
        exact ⟨(token, raw) :: settings, rest, rfl,
          List.forall_mem_cons.2 ⟨by simp [hset], hall⟩, hrest⟩

/-- **Tokens are accepted exactly when they are settings that are all read.** -/
theorem parse_eq_ok :
    parse flags unexpected record tokens = .ok record' ↔
      ∃ settings, tokens = tokensOf settings ∧
        (∀ s ∈ settings, (reading flags s).isSome = true) ∧
        record' = settings.foldl (apply flags) record := by
  constructor
  · intro h
    obtain ⟨settings, rest, rfl, hall, hrest⟩ := exists_settings flags unexpected tokens
    rw [parse_tokensOf_append hall] at h
    rcases hrest with rfl | ⟨e, he⟩
    · exact ⟨settings, by simp, hall, (Except.ok.inj h).symm⟩
    · rw [parse_of_offends he] at h
      cases h
  · rintro ⟨settings, rfl, hall, rfl⟩
    rw [← List.append_nil (tokensOf settings), parse_tokensOf_append hall, parse]

/-- **Tokens are refused for the first offence**, after settings that are read. -/
theorem parse_eq_error {e : ε} :
    parse flags unexpected record tokens = .error e ↔
      ∃ settings rest, tokens = tokensOf settings ++ rest ∧
        (∀ s ∈ settings, (reading flags s).isSome = true) ∧ Offends flags unexpected rest e := by
  constructor
  · intro h
    obtain ⟨settings, rest, rfl, hall, hrest⟩ := exists_settings flags unexpected tokens
    rw [parse_tokensOf_append hall] at h
    rcases hrest with rfl | ⟨e', he'⟩
    · cases h
    · rw [parse_of_offends he'] at h
      obtain rfl := Except.error.inj h
      exact ⟨settings, rest, rfl, hall, he'⟩
  · rintro ⟨settings, rest, rfl, hall, he⟩
    rw [parse_tokensOf_append hall, parse_of_offends he]

/-- A field of the record is a register: it keeps what a setting writes there. -/
theorem keeps_apply {V : Type*} {look : ρ → Option V} {written : Setting τ → Option V}
    (hread : ∀ s set, reading flags s = some set → ∀ r, look (set r) = (written s).or (look r))
    (hnone : ∀ s, reading flags s = none → written s = none) :
    Register.Keeps (apply flags) look written := by
  intro record setting
  cases h : reading flags setting with
  | none => simp [apply, h, hnone setting h]
  | some set => simpa [apply, h] using hread setting set h record

end Flags
