import Mathlib.Algebra.Group.Nat.Defs
import Provision.Proofs.Failures
import Provision.Proofs.Text.Utf8
import Provision.Template.Filter

/-!
The base 64 filters undo each other. A written form is described here by its bits, as a sequence of values
below 64 that carries the bits of the bytes and no others but zeros; bytes have exactly one, and decoding
accepts it and nothing else.
-/

namespace Provision

namespace Base64

/-! ### Symbols and their values -/

theorem value?_eq_some_iff {b : UInt8} {v : Nat} : value? b = some v ↔ v < 64 ∧ b = symbol v := by
  constructor
  · intro hv
    have hknown : ∀ n : Fin 256, ∀ u ∈ value? (.ofFin n), u < 64 ∧ UInt8.ofFin n = symbol u := by
      decide +kernel
    exact hknown b.toFin v hv
  · rintro ⟨hv, rfl⟩
    exact value?_symbol v hv

theorem valueAt_eq_ok_iff {offset : Nat} {b : UInt8} {v : Nat} :
    valueAt offset b = .ok v ↔ v < 64 ∧ b = symbol v := by
  rw [← value?_eq_some_iff, valueAt]
  cases value? b <;> simp

theorem symbol_ne_pad : ∀ v < 64, symbol v ≠ pad := by decide

theorem symbol_lt : ∀ v < 64, symbol v < 128 := by decide

/-- The symbols of values, with some padding behind them. -/
def spell (values : List Nat) (pads : Nat) : List UInt8 := values.map symbol ++ List.replicate pads pad

theorem length_spell (values : List Nat) (pads : Nat) : (spell values pads).length = values.length + pads := by
  simp [spell]

/-! ### Bytes as values below 64 -/

/-- The values whose symbols the written form of bytes consists of. -/
def sextets : List UInt8 → List Nat
  | [] => []
  | [p] => [p.toNat / 4, p.toNat % 4 * 16]
  | [p, q] => [p.toNat / 4, p.toNat % 4 * 16 + q.toNat / 16, q.toNat % 16 * 4]
  | p :: q :: r :: rest =>
    p.toNat / 4 :: (p.toNat % 4 * 16 + q.toNat / 16) :: (q.toNat % 16 * 4 + r.toNat / 64) :: r.toNat % 64 ::
      sextets rest

/-- How many padding symbols bytes need. -/
def padding (bytes : List UInt8) : Nat := (3 - bytes.length % 3) % 3

theorem padding_le (bytes : List UInt8) : padding bytes ≤ 2 := by
  simp only [padding]
  omega

theorem padding_cons (p q r : UInt8) (rest : List UInt8) : padding (p :: q :: r :: rest) = padding rest := by
  simp only [padding, List.length_cons]
  omega

theorem encode_eq_spell (bytes : List UInt8) : encode bytes = spell (sextets bytes) (padding bytes) := by
  fun_induction sextets bytes with
  | case1 | case2 | case3 => rfl
  | case4 p q r rest ih =>
      rw [encode, ih, padding_cons]
      rfl

theorem sextets_lt (bytes : List UInt8) : ∀ v ∈ sextets bytes, v < 64 := by
  fun_induction sextets bytes with
  | case1 => simp
  | case2 p =>
      have hp := p.toNat_lt
      simp
      omega
  | case3 p q =>
      have hp := p.toNat_lt
      have hq := q.toNat_lt
      simp
      omega
  | case4 p q r rest ih =>
      have hp := p.toNat_lt
      have hq := q.toNat_lt
      have hr := r.toNat_lt
      simp only [List.mem_cons, forall_eq_or_imp]
      exact ⟨by omega, by omega, by omega, by omega, ih⟩

theorem length_sextets (bytes : List UInt8) : 3 * (sextets bytes).length = 4 * bytes.length + padding bytes := by
  fun_induction sextets bytes with
  | case1 | case2 | case3 => rfl
  | case4 p q r rest ih =>
      rw [padding_cons]
      simp only [List.length_cons]
      omega

theorem length_encode (bytes : List UInt8) : (encode bytes).length % 4 = 0 := by
  have hlength := length_sextets bytes
  rw [encode_eq_spell, length_spell]
  omega

theorem eq_toUInt8_iff {b : UInt8} {n : Nat} (hn : n < 256) : b = n.toUInt8 ↔ b.toNat = n := by
  rw [← UInt8.toNat_inj]
  simp [Nat.mod_eq_of_lt hn]

/-- One byte has the bits of two values, of which the second has four bits more. -/
theorem one_byte_iff {a b : Nat} (ha : a < 64) (hb : b < 64) (p : UInt8) :
    (b % 16 = 0 ∧ p = (a * 4 + b / 16).toUInt8) ↔ a = p.toNat / 4 ∧ b = p.toNat % 4 * 16 := by
  have hp := p.toNat_lt
  rw [eq_toUInt8_iff (by omega)]
  omega

/-- Two bytes have the bits of three values, of which the third has two bits more. -/
theorem two_bytes_iff {a b c : Nat} (ha : a < 64) (hb : b < 64) (hc : c < 64) (p q : UInt8) :
    (c % 4 = 0 ∧ p = (a * 4 + b / 16).toUInt8 ∧ q = (b % 16 * 16 + c / 4).toUInt8) ↔
      a = p.toNat / 4 ∧ b = p.toNat % 4 * 16 + q.toNat / 16 ∧ c = q.toNat % 16 * 4 := by
  have hp := p.toNat_lt
  have hq := q.toNat_lt
  rw [eq_toUInt8_iff (by omega), eq_toUInt8_iff (by omega)]
  omega

/-- Three bytes have the bits of four values. -/
theorem three_bytes_iff {a b c d : Nat} (ha : a < 64) (hb : b < 64) (hc : c < 64) (hd : d < 64) (p q r : UInt8) :
    (p = (a * 4 + b / 16).toUInt8 ∧ q = (b % 16 * 16 + c / 4).toUInt8 ∧ r = (c % 4 * 64 + d).toUInt8) ↔
      a = p.toNat / 4 ∧ b = p.toNat % 4 * 16 + q.toNat / 16 ∧ c = q.toNat % 16 * 4 + r.toNat / 64 ∧
        d = r.toNat % 64 := by
  have hp := p.toNat_lt
  have hq := q.toNat_lt
  have hr := r.toNat_lt
  rw [eq_toUInt8_iff (by omega), eq_toUInt8_iff (by omega), eq_toUInt8_iff (by omega)]
  omega

/-! ### The last group -/

/-- The last group is read as its symbols, all below 64, and the padding behind them. -/
theorem spell_of_readLast {start place : Nat} {group : List UInt8} {symbols : List (UInt8 × Nat)} {pads : Nat}
    (hread : readLast start place group = .ok (symbols, pads)) :
    ∃ values : List Nat, (∀ v ∈ values, v < 64) ∧ symbols = values.map (fun v => (symbol v, v)) ∧
      group = spell values pads ∧ (0 < pads → 2 ≤ place + values.length) := by
  induction group generalizing place symbols with
  | nil =>
      cases hread
      exact ⟨[], by simp [spell]⟩
  | cons b rest ih =>
      by_cases hb : b = pad
      · rw [readLast, if_pos hb] at hread
        split at hread
        · cases hread
        · rename_i hwrong
          simp only [Bool.or_eq_true, decide_eq_true_eq, List.any_eq_true, not_or, Nat.not_lt, not_exists, not_and,
            Decidable.not_not] at hwrong
          have hrest : rest = List.replicate rest.length pad := List.eq_replicate_of_mem hwrong.2
          cases hread
          exact ⟨[], by simp, rfl, by simp [spell, List.replicate_succ, ← hrest, hb], fun _ => hwrong.1⟩
      · rw [readLast, if_neg hb] at hread
        obtain ⟨v, hv, hread⟩ := except_bind_eq_ok_iff.mp hread
        obtain ⟨⟨symbols', pads'⟩, hrest, heq⟩ := except_bind_eq_ok_iff.mp hread
        cases heq
        obtain ⟨hsmall, rfl⟩ := valueAt_eq_ok_iff.mp hv
        obtain ⟨values, hvalues, rfl, rfl, hplace⟩ := ih hrest
        have hlength : 0 < pads → 2 ≤ place + (v :: values).length := by
          intro hpads
          have hplace := hplace hpads
          simp only [List.length_cons]
          omega
        exact ⟨v :: values, by simpa [hsmall] using hvalues, rfl, rfl, hlength⟩

theorem readLast_spell (start : Nat) {values : List Nat} {pads place : Nat} (hvalues : ∀ v ∈ values, v < 64)
    (hpads : 0 < pads → 2 ≤ place + values.length) :
    readLast start place (spell values pads) = .ok (values.map (fun v => (symbol v, v)), pads) := by
  induction values generalizing place with
  | nil =>
      cases pads with
      | zero => rfl
      | succ pads =>
          have hplace : ¬ place < 2 := Nat.not_lt.mpr (hpads (Nat.succ_pos pads))
          simp [spell, List.replicate_succ, readLast, hplace]
  | cons v values ih =>
      simp only [List.mem_cons, forall_eq_or_imp] at hvalues
      have hread : valueAt (start + place) (symbol v) = .ok v := valueAt_eq_ok_iff.mpr ⟨hvalues.1, rfl⟩
      have hplace : 0 < pads → 2 ≤ place + 1 + values.length := by
        intro h
        have hplace := hpads h
        simp only [List.length_cons] at hplace
        omega
      have hsplit : spell (v :: values) pads = symbol v :: spell values pads := rfl
      rw [hsplit, readLast, if_neg (symbol_ne_pad v hvalues.1), hread, ih hvalues.2 hplace]
      rfl

/-- The bytes that the values of a last group stand for, if no bit is left over. -/
def LastBytes (bytes : List UInt8) : List Nat → Prop
  | [a, b] => b % 16 = 0 ∧ bytes = [(a * 4 + b / 16).toUInt8]
  | [a, b, c] => c % 4 = 0 ∧ bytes = [(a * 4 + b / 16).toUInt8, (b % 16 * 16 + c / 4).toUInt8]
  | [a, b, c, d] =>
    bytes = [(a * 4 + b / 16).toUInt8, (b % 16 * 16 + c / 4).toUInt8, (c % 4 * 64 + d).toUInt8]
  | _ => bytes = []

/-- What comes behind a check succeeds if the check passes. -/
theorem check_eq_ok_iff {ε α : Type} {c : Prop} [Decidable c] {e : ε} {next : Except ε α} {a : α} :
    (if c then (do let _ ← (throw e : Except ε Unit); next) else next) = .ok a ↔ ¬ c ∧ next = .ok a := by
  by_cases hc : c
  · simp only [hc, if_true, not_true_eq_false, false_and, iff_false]
    intro heq
    cases heq
  · simp [hc]

theorem decodeLast_spell_eq_ok_iff (start : Nat) {values : List Nat} {pads : Nat}
    (hvalues : ∀ v ∈ values, v < 64) (hpads : 0 < pads → 2 ≤ values.length) (bytes : List UInt8) :
    decodeLast start (spell values pads) = .ok bytes ↔
      (spell values pads ≠ [] → 2 ≤ values.length) ∧ (values.length + pads) % 4 = 0 ∧ LastBytes bytes values := by
  have hread : readLast start 0 (spell values pads) = .ok (values.map (fun v => (symbol v, v)), pads) :=
    readLast_spell start hvalues (by simpa using hpads)
  rw [decodeLast, hread]
  change (if _ then _ else _) = _ ↔ _
  rw [check_eq_ok_iff, check_eq_ok_iff]
  have hfew : ¬ (spell values pads ≠ [] && (values.map fun v => (symbol v, v)).length < 2) ↔
      (spell values pads ≠ [] → 2 ≤ values.length) := by
    simp only [Bool.and_eq_true, decide_eq_true_eq, List.length_map, not_and, Nat.not_lt]
  refine and_congr hfew (and_congr (by simp) ?_)
  match values with
  | [] | [_] => simp [LastBytes, pure, Except.pure, eq_comm]
  | [a, b] | [a, b, c] =>
      change (if _ then _ else _) = _ ↔ _
      rw [check_eq_ok_iff]
      simp [LastBytes, pure, Except.pure, eq_comm]
  | [a, b, c, d] | _ :: _ :: _ :: _ :: _ :: _ => simp [LastBytes, pure, Except.pure, eq_comm]

/-- The values of a last group stand for the bytes that they are the values of. -/
theorem lastBytes_iff {values : List Nat} (hvalues : ∀ v ∈ values, v < 64) (hlength : values.length ≤ 4)
    (hone : values.length ≠ 1) (bytes : List UInt8) : LastBytes bytes values ↔ values = sextets bytes := by
  constructor
  · intro hbytes
    match values with
    | [] =>
        obtain rfl : bytes = [] := hbytes
        rfl
    | [_] => exact absurd rfl hone
    | [a, b] =>
        obtain ⟨hb, rfl⟩ := hbytes
        obtain ⟨ha', hb'⟩ := (one_byte_iff (hvalues a (by simp)) (hvalues b (by simp)) _).mp ⟨hb, rfl⟩
        simp only [sextets, ← ha', ← hb']
    | [a, b, c] =>
        obtain ⟨hc, rfl⟩ := hbytes
        obtain ⟨ha', hb', hc'⟩ :=
          (two_bytes_iff (hvalues a (by simp)) (hvalues b (by simp)) (hvalues c (by simp)) _ _).mp ⟨hc, rfl, rfl⟩
        simp only [sextets, ← ha', ← hb', ← hc']
    | [a, b, c, d] =>
        obtain rfl := hbytes
        obtain ⟨ha', hb', hc', hd'⟩ :=
          (three_bytes_iff (hvalues a (by simp)) (hvalues b (by simp)) (hvalues c (by simp))
            (hvalues d (by simp)) _ _ _).mp ⟨rfl, rfl, rfl⟩
        simp only [sextets, ← ha', ← hb', ← hc', ← hd']
    | _ :: _ :: _ :: _ :: _ :: _ =>
        simp only [List.length_cons] at hlength
        omega
  · rintro rfl
    have hbytes := length_sextets bytes
    match bytes with
    | [] => rfl
    | [p] =>
        have hp := p.toNat_lt
        obtain ⟨hb, hbyte⟩ := (one_byte_iff (by omega) (by omega) p).mpr ⟨rfl, rfl⟩
        exact ⟨hb, by rw [← hbyte]⟩
    | [p, q] =>
        have hp := p.toNat_lt
        have hq := q.toNat_lt
        obtain ⟨hc, hp', hq'⟩ := (two_bytes_iff (by omega) (by omega) (by omega) p q).mpr ⟨rfl, rfl, rfl⟩
        exact ⟨hc, by rw [← hp', ← hq']⟩
    | [p, q, r] =>
        have hp := p.toNat_lt
        have hq := q.toNat_lt
        have hr := r.toNat_lt
        obtain ⟨hp', hq', hr'⟩ :=
          (three_bytes_iff (by omega) (by omega) (by omega) (by omega) p q r).mpr ⟨rfl, rfl, rfl, rfl⟩
        simp only [sextets, LastBytes, ← hp', ← hq', ← hr']
    | _ :: _ :: _ :: _ :: _ =>
        simp only [List.length_cons] at hbytes
        omega

/-- The last group is decoded to the bytes whose written form it is. -/
theorem decodeLast_eq_ok_iff {start : Nat} {group bytes : List UInt8} (hgroup : group.length ≤ 4) :
    decodeLast start group = .ok bytes ↔ group = encode bytes := by
  have hvalues := sextets_lt bytes
  have hlength := length_sextets bytes
  have hpadding := padding_le bytes
  constructor
  · intro hdecode
    obtain ⟨⟨symbols, pads⟩, hread, -⟩ :=
      except_bind_eq_ok_iff.mp (show (readLast start 0 group >>= _) = _ from hdecode)
    obtain ⟨values, hvalues, rfl, rfl, hpads⟩ := spell_of_readLast hread
    simp only [Nat.zero_add] at hpads
    obtain ⟨hsome, hfour, hbytes⟩ := (decodeLast_spell_eq_ok_iff start hvalues hpads bytes).mp hdecode
    rw [length_spell] at hgroup
    have hone : values.length ≠ 1 := by
      intro hone
      have hnone : spell values pads ≠ [] := by
        rw [← List.length_pos_iff, length_spell]
        omega
      have := hsome hnone
      omega
    obtain rfl := (lastBytes_iff hvalues (by omega) hone bytes).mp hbytes
    have heq : pads = padding bytes := by omega
    rw [encode_eq_spell, heq]
  · rintro rfl
    rw [encode_eq_spell, length_spell] at hgroup
    have hshort : (sextets bytes).length ≤ 4 := by omega
    have hone : (sextets bytes).length ≠ 1 := by omega
    rw [encode_eq_spell, decodeLast_spell_eq_ok_iff start hvalues (by omega)]
    refine ⟨fun hsome => ?_, by omega, (lastBytes_iff hvalues hshort hone bytes).mpr rfl⟩
    rw [← List.length_pos_iff, length_spell] at hsome
    omega

/-- Bytes are decoded from their written form only. -/
theorem decodeFrom_eq_ok_iff {start : Nat} {written bytes : List UInt8} :
    decodeFrom start written = .ok bytes ↔ written = encode bytes := by
  fun_induction decodeFrom start written generalizing bytes with
  | case1 start w x y z next rest ih =>
      simp only [except_bind_eq_ok_iff, valueAt_eq_ok_iff, ih]
      constructor
      · rintro ⟨a, ⟨ha, rfl⟩, b, ⟨hb, rfl⟩, c, ⟨hc, rfl⟩, d, ⟨hd, rfl⟩, rest, hrest, heq⟩
        obtain rfl := Except.ok.inj heq
        obtain ⟨ha', hb', hc', hd'⟩ := (three_bytes_iff ha hb hc hd _ _ _).mp ⟨rfl, rfl, rfl⟩
        rw [encode, ← ha', ← hb', ← hc', ← hd', hrest]
      · intro hwritten
        match bytes with
        | [] | [_] | [_, _] => cases hwritten
        | p :: q :: r :: tail =>
            have hp := p.toNat_lt
            have hq := q.toNat_lt
            have hr := r.toNat_lt
            obtain ⟨hp', hq', hr'⟩ :=
              (three_bytes_iff (by omega) (by omega) (by omega) (by omega) p q r).mpr ⟨rfl, rfl, rfl, rfl⟩
            simp only [encode, List.cons.injEq] at hwritten
            obtain ⟨hw, hx, hy, hz, hrest⟩ := hwritten
            exact ⟨_, ⟨by omega, hw⟩, _, ⟨by omega, hx⟩, _, ⟨by omega, hy⟩, _, ⟨by omega, hz⟩, tail, hrest,
              by rw [← hp', ← hq', ← hr']; rfl⟩
  | case2 start group hgroup =>
      apply decodeLast_eq_ok_iff
      match group with
      | [] | [_] | [_, _] | [_, _, _] | [_, _, _, _] => simp
      | w :: x :: y :: z :: next :: rest => exact absurd rfl (hgroup w x y z next rest)

/-- No written form ends in a stray byte, as its length is a multiple of four. -/
theorem strayEnd?_encode (bytes : List UInt8) : strayEnd? (encode bytes) = none := by
  have hlength := length_encode bytes
  cases hlast : (encode bytes).getLast? <;> simp [strayEnd?, hlast, hlength]

/-- Decoding accepts written forms only, and gives the bytes back. -/
theorem decode_eq_ok_iff {written bytes : List UInt8} : decode written = .ok bytes ↔ written = encode bytes := by
  constructor
  · intro hdecode
    rw [decode] at hdecode
    split at hdecode
    · cases hdecode
    · exact decodeFrom_eq_ok_iff.mp hdecode
  · rintro rfl
    rw [decode, strayEnd?_encode]
    exact decodeFrom_eq_ok_iff.mpr rfl

/-! ### Written forms by their bits -/

/-- The lowest bits of a number, the highest of them first. -/
def bits : Nat → Nat → List Bool
  | 0, _ => []
  | width + 1, n => bits width (n / 2) ++ [decide (n % 2 = 1)]

theorem length_bits (width n : Nat) : (bits width n).length = width := by
  induction width generalizing n with
  | zero => rfl
  | succ width ih => simp [bits, ih]

theorem bits_add (high low n : Nat) : bits (high + low) n = bits high (n / 2 ^ low) ++ bits low n := by
  induction low generalizing n with
  | zero => simp [bits]
  | succ low ih =>
      rw [← Nat.add_assoc, bits, ih, bits, List.append_assoc, Nat.div_div_eq_div_mul, Nat.pow_succ']

/-- The lowest bits of two numbers are the same if the numbers differ by what these bits do not show. -/
theorem bits_eq_iff {width m n : Nat} : bits width m = bits width n ↔ m % 2 ^ width = n % 2 ^ width := by
  induction width generalizing m n with
  | zero => simp [bits, Nat.mod_one]
  | succ width ih =>
      have hsplit (k : Nat) : k % 2 ^ (width + 1) = k % 2 + 2 * (k / 2 % 2 ^ width) := by
        rw [Nat.pow_succ', Nat.mod_mul]
      rw [hsplit m, hsplit n]
      constructor
      · intro heq
        obtain ⟨hhigh, hlow⟩ := List.append_inj' heq rfl
        rw [ih] at hhigh
        simp only [List.cons.injEq, decide_eq_decide, and_true] at hlow
        omega
      · intro heq
        have hhigh : bits width (m / 2) = bits width (n / 2) := ih.mpr (by omega)
        have hlow : m % 2 = n % 2 := by omega
        rw [bits, bits, hhigh, hlow]

/-- Values below 64 are known by their bits. -/
theorem flatMap_bits_inj {values others : List Nat} (hvalues : ∀ v ∈ values, v < 64) (hothers : ∀ v ∈ others, v < 64)
    (heq : values.flatMap (bits 6) = others.flatMap (bits 6)) : values = others := by
  induction values generalizing others with
  | nil =>
      cases others with
      | nil => rfl
      | cons o others => cases heq
  | cons v values ih =>
      cases others with
      | nil => cases heq
      | cons o others =>
          simp only [List.mem_cons, forall_eq_or_imp] at hvalues hothers
          simp only [List.flatMap_cons] at heq
          obtain ⟨hfirst, hrest⟩ := List.append_inj heq (by rw [length_bits, length_bits])
          have hvo : v = o := by
            have hmod := bits_eq_iff.mp hfirst
            change v % 64 = o % 64 at hmod
            rwa [Nat.mod_eq_of_lt hvalues.1, Nat.mod_eq_of_lt hothers.1] at hmod
          rw [hvo, ih hvalues.2 hothers.2 hrest]

theorem length_flatMap_bits (width : Nat) (values : List Nat) :
    (values.flatMap (bits width)).length = width * values.length := by
  induction values with
  | nil => rfl
  | cons v values ih =>
      rw [List.flatMap_cons, List.length_append, length_bits, ih, List.length_cons, Nat.mul_succ, Nat.add_comm]

/-- A value made of the lowest bits of one number and the highest bits of another carries both. -/
theorem bits_mix (high low m n : Nat) (hn : n < 2 ^ low) :
    bits (high + low) (m % 2 ^ high * 2 ^ low + n) = bits high m ++ bits low n := by
  have hhigh : (m % 2 ^ high * 2 ^ low + n) / 2 ^ low = m % 2 ^ high := by
    rw [Nat.mul_comm, Nat.mul_add_div (Nat.two_pow_pos low), Nat.div_eq_of_lt hn, Nat.add_zero]
  rw [bits_add, hhigh, bits_eq_iff.mpr (Nat.mod_mod m _), bits_eq_iff.mpr (Nat.mul_add_mod_self_right _ _ n)]

/-- A first value and the start of a second one have the bits of a byte. -/
theorem bits_first (p n : Nat) (hn : n < 16) (rest : List Bool) :
    bits 6 (p / 4) ++ (bits 6 (p % 4 * 16 + n) ++ rest) = bits 8 p ++ (bits 4 n ++ rest) := by
  have hbyte : bits 8 p = bits 6 (p / 4) ++ bits 2 p := bits_add 6 2 p
  have hmixed : bits 6 (p % 4 * 16 + n) = bits 2 p ++ bits 4 n := bits_mix 2 4 p n hn
  simp [hbyte, hmixed]

/-- The end of a second value and the start of a third one have the bits of a byte. -/
theorem bits_second (q n : Nat) (hn : n < 4) (rest : List Bool) :
    bits 4 (q / 16) ++ (bits 6 (q % 16 * 4 + n) ++ rest) = bits 8 q ++ (bits 2 n ++ rest) := by
  have hbyte : bits 8 q = bits 4 (q / 16) ++ bits 4 q := bits_add 4 4 q
  have hmixed : bits 6 (q % 16 * 4 + n) = bits 4 q ++ bits 2 n := bits_mix 4 2 q n hn
  simp [hbyte, hmixed]

/-- The end of a third value and a fourth one have the bits of a byte. -/
theorem bits_third (r : Nat) (rest : List Bool) :
    bits 2 (r / 64) ++ (bits 6 (r % 64) ++ rest) = bits 8 r ++ rest := by
  have hbyte : bits 8 r = bits 2 (r / 64) ++ bits 6 r := bits_add 2 6 r
  have hlow : bits 6 (r % 64) = bits 6 r := bits_eq_iff.mpr (Nat.mod_mod r _)
  simp [hbyte, hlow]

/-- The values of bytes carry the bits of the bytes, and zeros behind them. -/
theorem flatMap_bits_sextets (bytes : List UInt8) :
    (sextets bytes).flatMap (bits 6) =
      (bytes.map UInt8.toNat).flatMap (bits 8) ++ List.replicate (2 * padding bytes) false := by
  fun_induction sextets bytes with
  | case1 => rfl
  | case2 p => exact bits_first p.toNat 0 (by decide) []
  | case3 p q =>
      have hq := q.toNat_lt
      have hlast := bits_second q.toNat 0 (by decide) []
      simp only [List.flatMap_cons, List.map_cons, List.append_assoc]
      rw [bits_first _ _ (by omega)]
      exact congrArg (bits 8 p.toNat ++ ·) hlast
  | case4 p q r rest ih =>
      have hq := q.toNat_lt
      have hr := r.toNat_lt
      simp only [List.flatMap_cons, List.map_cons, List.append_assoc]
      rw [bits_first _ _ (by omega), bits_second _ _ (by omega), bits_third, ih, padding_cons]

/-- A written form of bytes: symbols that carry their bits and up to four zeros, and padding. -/
def Writes (bytes written : List UInt8) : Prop :=
  ∃ values : List Nat, ∃ pads ≤ 2, (∀ v ∈ values, v < 64) ∧
    values.flatMap (bits 6) = (bytes.map UInt8.toNat).flatMap (bits 8) ++ List.replicate (2 * pads) false ∧
      written = spell values pads

/-- Bytes have one written form. -/
theorem writes_iff {bytes written : List UInt8} : Writes bytes written ↔ written = encode bytes := by
  constructor
  · rintro ⟨values, pads, hpads, hvalues, hbits, rfl⟩
    have hbytes := length_sextets bytes
    have hpadding := padding_le bytes
    have hlength := congrArg List.length hbits
    rw [List.length_append, length_flatMap_bits, length_flatMap_bits, List.length_map, List.length_replicate] at hlength
    obtain rfl : pads = padding bytes := by omega
    rw [← flatMap_bits_sextets] at hbits
    rw [encode_eq_spell, flatMap_bits_inj hvalues (sextets_lt bytes) hbits]
  · rintro rfl
    exact ⟨sextets bytes, padding bytes, padding_le bytes, sextets_lt bytes,
      flatMap_bits_sextets bytes, encode_eq_spell bytes⟩

/-! ### Texts in base 64 -/

theorem encode_lt (bytes : List UInt8) : ∀ b ∈ encode bytes, b < 128 := by
  intro b hb
  rw [encode_eq_spell, spell, List.mem_append, List.mem_map] at hb
  obtain ⟨v, hv, rfl⟩ | hb := hb
  · exact symbol_lt v (sextets_lt bytes v hv)
  · rw [List.eq_of_mem_replicate hb]
    decide

theorem utf8EncodeChar_of_lt {b : UInt8} (hb : b < 128) : String.utf8EncodeChar (Char.ofNat b.toNat) = [b] := by
  have hknown : ∀ n : Fin 128, String.utf8EncodeChar (Char.ofNat n) = [UInt8.ofNat n] := by decide +kernel
  simpa using hknown ⟨b.toNat, hb⟩

theorem flatMap_utf8EncodeChar {bytes : List UInt8} (hbytes : ∀ b ∈ bytes, b < 128) :
    bytes.flatMap (fun b => String.utf8EncodeChar (Char.ofNat b.toNat)) = bytes := by
  induction bytes with
  | nil => rfl
  | cons b rest ih =>
      simp only [List.mem_cons, forall_eq_or_imp] at hbytes
      rw [List.flatMap_cons, utf8EncodeChar_of_lt hbytes.1, ih hbytes.2]
      rfl

/-- The bytes of a text in base 64 are the written form of the bytes of the text. -/
theorem utf8_encodeText (s : String) : Utf8.encode (encodeText s) = encode (Utf8.encode s) := by
  rw [encodeText, Utf8.encode_ofList, List.flatMap_map, flatMap_utf8EncodeChar (encode_lt _)]

end Base64

namespace Template.Filter

/-- Decoding a text gives back exactly the text whose written form it is. -/
theorem base64Decode_eq_ok_iff {s t : String} : base64Decode s = .ok t ↔ s = Base64.encodeText t := by
  rw [← Utf8.encode_inj, Base64.utf8_encodeText, ← Base64.decode_eq_ok_iff, base64Decode]
  cases Base64.decode (Utf8.encode s) with
  | error fault => simp [refuse]
  | ok bytes =>
      rw [Except.ok.injEq, ← Utf8.decode_eq_ok_iff]
      cases hread : Utf8.decode bytes <;> simp [refuse, hread]

/-- Decoding undoes encoding, and nothing else is decoded: a text is in base 64 by its bits, or it carries
bytes that are no text, or it carries no bytes at all. -/
theorem base64_exact_inverses :
    (∀ s t, base64Decode s = .ok t ↔ s = Base64.encodeText t) ∧
      (∀ t written, Base64.Writes (Utf8.encode t) written ↔ written = Utf8.encode (Base64.encodeText t)) ∧
      ∀ s, (∃ t, s = Base64.encodeText t ∧ base64Decode s = .ok t) ∨
        (∃ bytes fault, Base64.Writes bytes (Utf8.encode s) ∧ Utf8.decode bytes = .error fault ∧
          base64Decode s = refuse ("base64 decode produced invalid UTF-8: " ++ fault.message)) ∨
        (∀ bytes, ¬ Base64.Writes bytes (Utf8.encode s)) ∧
          ∃ fault, Base64.decode (Utf8.encode s) = .error fault ∧
            base64Decode s = refuse ("base64 decode error: " ++ fault.message) := by
  refine ⟨fun s t => base64Decode_eq_ok_iff, fun t written => ?_, fun s => ?_⟩
  · rw [Base64.writes_iff, Base64.utf8_encodeText]
  · simp only [Base64.writes_iff, ← Base64.decode_eq_ok_iff]
    cases hdecode : Base64.decode (Utf8.encode s) with
    | error fault => exact .inr (.inr ⟨by simp, fault, rfl, by simp [base64Decode, hdecode]⟩)
    | ok bytes =>
        cases hread : Utf8.decode bytes with
        | error fault => exact .inr (.inl ⟨bytes, fault, rfl, hread, by simp [base64Decode, hdecode, hread]⟩)
        | ok t =>
            have hok : base64Decode s = .ok t := by simp [base64Decode, hdecode, hread]
            exact .inl ⟨t, base64Decode_eq_ok_iff.mp hok, hok⟩

end Template.Filter
end Provision
