import Mathlib.Algebra.Group.Nat.Defs
import Mathlib.Data.List.Flatten
import ModelCache.Digest.Field

/-!
# Fields can be told apart

Of a digest nothing can be read back, but of the bytes that are digested everything can. What makes
them unambiguous is that every part shows where it ends, so that whatever follows cannot be taken
for more of it:

* **`Field.Delimits`** — the fields made of a value tell which value it was and where they end. This
  holds of single marks, texts and flags, and is kept by putting parts one after another
  (`Delimits.append`), by listing any number of them behind their count (`Delimits.list`), and by
  taking a value apart without loss (`Delimits.comp`).

A length is written as a word, so two lengths can only be told apart if they are below `2 ^ 64`. The
statements are therefore about fields that are no longer than that (`Field.Short`), and about values
whose lists are no longer either. The whole stream may have any length; if it is below `2 ^ 64`, so is
everything in it (`Field.short_of_stream`, `Field.length_le_stream`).
-/

namespace ModelCache

/-! ## Words and texts -/

theorem Hash128.length_bytesOfWord (w : UInt64) : (bytesOfWord w).length = 8 := by
  simp [bytesOfWord]

/-- The byte of a word at an index. -/
theorem Hash128.toNat_byte (w : UInt64) {i : Nat} (hi : i < 8) :
    ((w >>> (UInt64.ofNat (8 * i))).toUInt8).toNat = w.toNat / 256 ^ i % 256 := by
  have hshift : (UInt64.ofNat (8 * i)).toNat % 64 = 8 * i := by
    rw [UInt64.toNat_ofNat']
    omega
  rw [UInt64.toNat_toUInt8, UInt64.toNat_shiftRight, hshift, Nat.shiftRight_eq_div_pow, Nat.pow_mul]

theorem Hash128.eq_of_bytes {k m n : Nat} (hm : m < 256 ^ k) (hn : n < 256 ^ k)
    (h : ∀ i < k, m / 256 ^ i % 256 = n / 256 ^ i % 256) : m = n := by
  induction k generalizing m n with
  | zero =>
    rw [Nat.pow_zero] at hm hn
    omega
  | succ k ih =>
    rw [Nat.pow_succ] at hm hn
    -- the lowest byte, and then the bytes of what is above it
    have hlow : m % 256 = n % 256 := by
      have hzero := h 0 (Nat.succ_pos k)
      rwa [Nat.pow_zero, Nat.div_one, Nat.div_one] at hzero
    have hhigh : m / 256 = n / 256 := by
      refine ih (Nat.div_lt_of_lt_mul (by omega)) (Nat.div_lt_of_lt_mul (by omega)) fun i hi => ?_
      have hnext := h (i + 1) (Nat.succ_lt_succ hi)
      rwa [Nat.pow_succ', ← Nat.div_div_eq_div_mul, ← Nat.div_div_eq_div_mul] at hnext
    omega

theorem Hash128.bytesOfWord_injective {v w : UInt64} (h : bytesOfWord v = bytesOfWord w) :
    v = w := by
  refine UInt64.toNat_inj.mp (eq_of_bytes (k := 8) v.toNat_lt w.toNat_lt fun i hi => ?_)
  have hbyte := List.map_inj_left.mp h i (List.mem_range.mpr hi)
  rw [← toNat_byte v hi, ← toNat_byte w hi, hbyte]

/-- Numbers below `2 ^ 64` are told apart by the bytes of their words. -/
theorem Hash128.bytesOfWord_ofNat_injective {m n : Nat} (hm : m < 2 ^ 64) (hn : n < 2 ^ 64)
    (h : bytesOfWord (UInt64.ofNat m) = bytesOfWord (UInt64.ofNat n)) : m = n := by
  have hword := congrArg UInt64.toNat (bytesOfWord_injective h)
  rwa [UInt64.toNat_ofNat', UInt64.toNat_ofNat', Nat.mod_eq_of_lt hm, Nat.mod_eq_of_lt hn] at hword

theorem Text.utf8_injective {s t : String} (h : utf8 s = utf8 t) : s = t := by
  have hread := congrArg ofUtf8? h
  rw [ofUtf8?_utf8, ofUtf8?_utf8] at hread
  exact Option.some.inj hread

namespace Field

/-! ## Lengths -/

theorem stream_singleton (f : Field) : stream [f] = f.encode := by
  rw [stream, List.flatMap_singleton]

theorem stream_cons (f : Field) (rest : List Field) : stream (f :: rest) = f.encode ++ stream rest := by
  rw [stream, List.flatMap_cons]
  rfl

theorem encode_ne_nil (f : Field) : f.encode ≠ [] := by
  cases f with
  | mark tag => exact List.cons_ne_nil tag []
  | bytes data =>
    intro hnil
    have hlength := congrArg List.length hnil
    rw [encode, List.length_append, Hash128.length_bytesOfWord] at hlength
    simp only [List.length_nil] at hlength
    omega

/-- Whether the length of every field can be told from the word that stands for it. -/
def Short (fields : List Field) : Prop := ∀ data, .bytes data ∈ fields → data.length < 2 ^ 64

theorem short_append {fields fields' : List Field} :
    Short (fields ++ fields') ↔ Short fields ∧ Short fields' := by
  unfold Short
  simp only [List.mem_append, or_imp, forall_and]

theorem Short.sublist {fields fields' : List Field} (h : Short fields')
    (hsub : fields.Sublist fields') : Short fields :=
  fun data hdata => h data (hsub.subset hdata)

/-- Fields have no more bytes than any others among which they stand. -/
theorem length_stream_le {fields fields' : List Field} (h : fields.Sublist fields') :
    (stream fields).length ≤ (stream fields').length :=
  (h.flatMap encode).length_le

/-- No field of a stream of fewer than `2 ^ 64` bytes is longer than that. -/
theorem short_of_stream {fields : List Field} (h : (stream fields).length < 2 ^ 64) :
    Short fields := by
  intro data hdata
  have hle := length_stream_le (List.singleton_sublist.mpr hdata)
  rw [stream_singleton, encode, List.length_append] at hle
  omega

/-! ## Fields that show where they end -/

/-- Whether the fields made of a value tell the value, and where they end, as long as the fields are
short and the value `fits`, which is for its lists to be short as well. -/
def Delimits {α : Type} (fits : α → Prop) (fields : α → List Field) : Prop :=
  ∀ (a b : α), fits a → fits b → Short (fields a) → Short (fields b) → ∀ x y : List UInt8,
    stream (fields a) ++ x = stream (fields b) ++ y → a = b ∧ x = y

theorem delimits_mark : Delimits (fun _ => True) fun t : UInt8 => [.mark t] := by
  intro s t _ _ _ _ x y h
  rw [stream_singleton, stream_singleton, encode, encode] at h
  exact List.cons_eq_cons.mp h

/-- Bytes of any length are told by their length. -/
theorem delimits_bytes : Delimits (fun _ => True) fun data : List UInt8 => [.bytes data] := by
  intro a b _ _ ha hb x y h
  rw [stream_singleton, stream_singleton, encode, encode, List.append_assoc, List.append_assoc] at h
  -- eight bytes of length on either side, and then as many bytes as they say
  obtain ⟨hword, hrest⟩ := List.append_inj h
    (by rw [Hash128.length_bytesOfWord, Hash128.length_bytesOfWord])
  have hsame := Hash128.bytesOfWord_ofNat_injective (ha a (List.mem_singleton_self _))
    (hb b (List.mem_singleton_self _)) hword
  exact List.append_inj hrest hsame

variable {α β : Type} {f : α → List Field} {g : β → List Field} {fits : α → Prop}
  {fits' : β → Prop}

theorem Delimits.mono (hf : Delimits fits f) {fewer : α → Prop} (h : ∀ a, fewer a → fits a) :
    Delimits fewer f :=
  fun a b ha hb => hf a b (h a ha) (h b hb)

/-- A value that is taken apart without loss is told by its parts. -/
theorem Delimits.comp (hf : Delimits fits f) {i : β → α} (hi : ∀ b c, i b = i c → b = c) :
    Delimits (fun b => fits (i b)) fun b => f (i b) := by
  intro b c hb hc hsb hsc x y h
  obtain ⟨hsame, hrest⟩ := hf (i b) (i c) hb hc hsb hsc x y h
  exact ⟨hi b c hsame, hrest⟩

theorem delimits_text : Delimits (fun _ => True) fun s : String => [.text s] :=
  delimits_bytes.comp fun _ _ h => Text.utf8_injective h

theorem delimits_flag : Delimits (fun _ => True) fun b : Bool => [.flag b] := by
  refine delimits_mark.comp (i := fun b : Bool => if b then (1 : UInt8) else 0) ?_
  decide

/-- **Parts one after another tell a pair.** -/
theorem Delimits.append (hf : Delimits fits f) (hg : Delimits fits' g) :
    Delimits (fun p : α × β => fits p.1 ∧ fits' p.2) fun p => f p.1 ++ g p.2 := by
  rintro ⟨a, b⟩ ⟨a', b'⟩ ⟨ha, hb⟩ ⟨ha', hb'⟩ hs hs' x y h
  obtain ⟨hsa, hsb⟩ := short_append.mp hs
  obtain ⟨hsa', hsb'⟩ := short_append.mp hs'
  simp only [stream_append, List.append_assoc] at h
  obtain ⟨rfl, hrest⟩ := hf a a' ha ha' hsa hsa' _ _ h
  obtain ⟨rfl, hxy⟩ := hg b b' hb hb' hsb hsb' x y hrest
  exact ⟨rfl, hxy⟩

/-- A mark in front tells a section and nothing else. -/
theorem Delimits.mark_cons (hf : Delimits fits f) (t : UInt8) :
    Delimits fits fun a => .mark t :: f a := by
  intro a b ha hb hsa hsb x y h
  rw [stream_cons, stream_cons, List.append_assoc, List.append_assoc] at h
  exact hf a b ha hb (hsa.sublist (List.sublist_cons_self _ _))
    (hsb.sublist (List.sublist_cons_self _ _)) x y (List.append_cancel_left h)

/-- A flag tells whether there is a value behind it. -/
theorem Delimits.option (hf : Delimits fits f) {fields : Option α → List Field}
    (hnone : fields none = [.flag false]) (hsome : ∀ a, fields (some a) = .flag true :: f a) :
    Delimits (fun o => ∀ a ∈ o, fits a) fields := by
  intro o p ho hp hso hsp x y h
  cases o with
  | none =>
    cases p with
    | none => exact ⟨rfl, List.append_cancel_left h⟩
    | some b =>
      rw [hnone, hsome, stream_singleton, stream_cons] at h
      -- the flags differ
      cases (List.cons_eq_cons.mp h).1
  | some a =>
    cases p with
    | none =>
      rw [hnone, hsome, stream_singleton, stream_cons] at h
      cases (List.cons_eq_cons.mp h).1
    | some b =>
      rw [hsome] at hso hsp h
      obtain ⟨hab, hxy⟩ := hf.mark_cons _ a b (ho a rfl) (hp b rfl) hso hsp x y
        (by rw [hsome] at h; exact h)
      exact ⟨congrArg some hab, hxy⟩

theorem length_le_stream (hne : ∀ a, f a ≠ []) (l : List α) :
    l.length ≤ (stream (l.flatMap f)).length := by
  induction l with
  | nil => exact Nat.zero_le _
  | cons a rest ih =>
    obtain ⟨field, fields, hfields⟩ := List.exists_cons_of_ne_nil (hne a)
    have hpos : 0 < field.encode.length := List.length_pos_iff.mpr field.encode_ne_nil
    rw [List.flatMap_cons, stream_append, hfields, stream_cons]
    simp only [List.length_append, List.length_cons]
    omega

theorem Delimits.flatMap (hf : Delimits fits f) {l m : List α} (hlength : l.length = m.length)
    (hl : ∀ a ∈ l, fits a) (hm : ∀ a ∈ m, fits a) (hsl : Short (l.flatMap f))
    (hsm : Short (m.flatMap f)) {x y : List UInt8}
    (h : stream (l.flatMap f) ++ x = stream (m.flatMap f) ++ y) : l = m ∧ x = y := by
  induction l generalizing m with
  | nil =>
    obtain rfl := List.length_eq_zero_iff.mp hlength.symm
    exact ⟨rfl, h⟩
  | cons a l ih =>
    cases m with
    | nil => cases hlength
    | cons b m =>
      obtain ⟨ha, hl'⟩ := List.forall_mem_cons.mp hl
      obtain ⟨hb, hm'⟩ := List.forall_mem_cons.mp hm
      obtain ⟨hsa, hsl'⟩ := short_append.mp hsl
      obtain ⟨hsb, hsm'⟩ := short_append.mp hsm
      simp only [List.flatMap_cons, stream_append, List.append_assoc] at h
      obtain ⟨rfl, hrest⟩ := hf a b ha hb hsa hsb _ _ h
      obtain ⟨rfl, hxy⟩ := ih (Nat.succ.inj hlength) hl' hm' hsl' hsm' hrest
      exact ⟨rfl, hxy⟩

/-- **Any number of parts behind their count tell a list.** -/
theorem Delimits.list (hf : Delimits fits f) :
    Delimits (fun l : List α => l.length < 2 ^ 64 ∧ ∀ a ∈ l, fits a)
      fun l => .count l.length :: l.flatMap f := by
  intro l m ⟨hl, hlfits⟩ ⟨hm, hmfits⟩ hsl hsm x y h
  dsimp only at hsl hsm h
  rw [← List.singleton_append] at hsl hsm
  obtain ⟨hcl, hsl⟩ := short_append.mp hsl
  obtain ⟨hcm, hsm⟩ := short_append.mp hsm
  rw [stream_cons, stream_cons, List.append_assoc, List.append_assoc, ← stream_singleton,
    ← stream_singleton] at h
  obtain ⟨hcount, hrest⟩ := delimits_bytes _ _ trivial trivial hcl hcm _ _ h
  exact hf.flatMap (Hash128.bytesOfWord_ofNat_injective hl hm hcount) hlfits hmfits hsl hsm hrest

end Field

end ModelCache
