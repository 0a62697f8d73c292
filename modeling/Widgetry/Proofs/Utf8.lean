import Widgetry.Proofs.Outcome
import Widgetry.Text.Utf8

/-!
# UTF-8 both ways

The decoder accepts exactly the bytes that encode a text, and answers with that text
(`ofUtf8_eq_ok_iff`).

What has been read is at any time the encoding of the characters done and the bytes of an open
sequence. An open sequence keeps a promise (`Completes`): whichever bytes come that it allows, the
character that they denote is encoded by just these bytes. A lead byte makes the promise, and a
continuation byte needs no arithmetic to keep it.
-/

namespace Widgetry.Text

open String Utf8State Outcome

/-! ## Encoded characters -/

theorem val_ofNat {v : Nat} (h : v.isValidChar) : (Char.ofNat v).val.toNat = v := by
  rw [Char.ofNat, dif_pos h]
  rfl

section

variable {v : Nat} {a b c d : UInt8}

theorem utf8EncodeChar_one (h : v < 0x80) (ha : a.toNat = v) :
    utf8EncodeChar (Char.ofNat v) = [a] := by
  have hv : v.isValidChar := Or.inl (by omega)
  simp only [utf8EncodeChar, val_ofNat hv]
  rw [if_pos (by omega)]
  simp only [List.cons.injEq, ← UInt8.toNat_inj, UInt8.toNat_ofNat', and_true]
  omega

theorem utf8EncodeChar_two (h : 0x80 ≤ v) (h' : v < 0x800) (ha : a.toNat = 0xC0 + v / 64)
    (hb : b.toNat = 0x80 + v % 64) : utf8EncodeChar (Char.ofNat v) = [a, b] := by
  have hv : v.isValidChar := Or.inl (by omega)
  simp only [utf8EncodeChar, val_ofNat hv]
  rw [if_neg (by omega), if_pos (by omega)]
  simp only [List.cons.injEq, ← UInt8.toNat_inj, UInt8.toNat_ofNat', and_true]
  omega

theorem utf8EncodeChar_three (h : 0x800 ≤ v) (h' : v < 0x10000) (hv : v.isValidChar)
    (ha : a.toNat = 0xE0 + v / 64 / 64) (hb : b.toNat = 0x80 + v / 64 % 64)
    (hc : c.toNat = 0x80 + v % 64) : utf8EncodeChar (Char.ofNat v) = [a, b, c] := by
  simp only [utf8EncodeChar, val_ofNat hv]
  rw [if_neg (by omega), if_neg (by omega), if_pos (by omega)]
  simp only [List.cons.injEq, ← UInt8.toNat_inj, UInt8.toNat_ofNat', and_true]
  omega

theorem utf8EncodeChar_four (h : 0x10000 ≤ v) (h' : v < 0x110000)
    (ha : a.toNat = 0xF0 + v / 64 / 64 / 64) (hb : b.toNat = 0x80 + v / 64 / 64 % 64)
    (hc : c.toNat = 0x80 + v / 64 % 64) (hd : d.toNat = 0x80 + v % 64) :
    utf8EncodeChar (Char.ofNat v) = [a, b, c, d] := by
  have hv : v.isValidChar := Or.inr (by omega)
  simp only [utf8EncodeChar, val_ofNat hv]
  rw [if_neg (by omega), if_neg (by omega), if_neg (by omega)]
  simp only [List.cons.injEq, ← UInt8.toNat_inj, UInt8.toNat_ofNat', and_true]
  omega

end

/-! ## One byte -/

namespace Utf8State

variable (s : Utf8State) {b : UInt8}

theorem lead_one (h : b.toNat < 0x80) :
    s.lead b = .ok ⟨Char.ofNat b.toNat :: s.done, s.position + 1, none⟩ :=
  if_pos (UInt8.lt_iff_toNat_lt.mpr h)

/-- After a lead byte: how many bytes are missing behind the next one, the bits read, and the
range of the next byte. -/
def opened (b : UInt8) (left bits : Nat) (low high : UInt8) : Utf8State :=
  ⟨s.done, s.position + 1, some ⟨s.position, b, 0, left, bits, low, high⟩⟩

theorem lead_two (h : 0xC2 ≤ b.toNat) (h' : b.toNat < 0xE0) :
    s.lead b = .ok (s.opened b 0 (b.toNat - 0xC0) 0x80 0xBF) := by
  simp only [lead, UInt8.lt_iff_toNat_lt, UInt8.reduceToNat]
  rw [if_neg (by omega), if_neg (by omega), if_pos (by omega)]
  rfl

theorem lead_three (h : 0xE0 ≤ b.toNat) (h' : b.toNat < 0xF0) :
    s.lead b = .ok (s.opened b 1 (b.toNat - 0xE0) (if b.toNat = 0xE0 then 0xA0 else 0x80)
      (if b.toNat = 0xED then 0x9F else 0xBF)) := by
  simp only [lead, UInt8.lt_iff_toNat_lt, ← UInt8.toNat_inj, UInt8.reduceToNat]
  rw [if_neg (by omega), if_neg (by omega), if_neg (by omega)]
  by_cases hfirst : b.toNat = 0xE0
  · rw [if_pos hfirst, if_pos hfirst, if_neg (by omega), hfirst]
    rfl
  by_cases hsurrogate : b.toNat = 0xED
  · rw [if_neg hfirst, if_pos hsurrogate, if_neg hfirst, if_pos hsurrogate, hsurrogate]
    rfl
  · rw [if_neg hfirst, if_neg hsurrogate, if_pos h', if_neg hfirst, if_neg hsurrogate]
    rfl

theorem lead_four (h : 0xF0 ≤ b.toNat) (h' : b.toNat < 0xF5) :
    s.lead b = .ok (s.opened b 2 (b.toNat - 0xF0) (if b.toNat = 0xF0 then 0x90 else 0x80)
      (if b.toNat = 0xF4 then 0x8F else 0xBF)) := by
  simp only [lead, UInt8.lt_iff_toNat_lt, ← UInt8.toNat_inj, UInt8.reduceToNat]
  rw [if_neg (by omega), if_neg (by omega), if_neg (by omega), if_neg (by omega),
    if_neg (by omega), if_neg (by omega)]
  by_cases hfirst : b.toNat = 0xF0
  · rw [if_pos hfirst, if_pos hfirst, if_neg (by omega), hfirst]
    rfl
  by_cases hlast : b.toNat = 0xF4
  · rw [if_neg hfirst, if_neg (by omega), if_pos hlast, if_neg hfirst, if_pos hlast, hlast]
    rfl
  · rw [if_neg hfirst, if_pos (by omega), if_neg hfirst, if_neg hlast]
    rfl

theorem lead_error (h : 0x80 ≤ b.toNat) (h' : b.toNat < 0xC2 ∨ 0xF5 ≤ b.toNat) :
    s.lead b = .error ⟨s.position, b, 0, .invalidStart⟩ := by
  simp only [lead, UInt8.lt_iff_toNat_lt, ← UInt8.toNat_inj, UInt8.reduceToNat]
  rw [if_neg (by omega)]
  rcases h' with hlow | hhigh
  · rw [if_pos hlow]
  · rw [if_neg (by omega), if_neg (by omega), if_neg (by omega), if_neg (by omega),
      if_neg (by omega), if_neg (by omega), if_neg (by omega), if_neg (by omega)]

end Utf8State

/-! ## Open sequences -/

/-- The value of bits with those of a continuation byte behind them. -/
def extend (bits : Nat) (b : UInt8) : Nat := 64 * bits + (b.toNat - 0x80)

/-- Whichever bytes complete the sequence, they encode the character that they denote. The bytes are
those read, and `left` of the missing ones come behind the next one, which is in the given range. -/
def Completes (bytes : List UInt8) : (left bits : Nat) → (low high : UInt8) → Prop
  | 0, bits, low, high =>
    ∀ b, low ≤ b → b ≤ high → utf8EncodeChar (Char.ofNat (extend bits b)) = bytes ++ [b]
  | left + 1, bits, low, high =>
    ∀ b, low ≤ b → b ≤ high → Completes (bytes ++ [b]) left (extend bits b) 0x80 0xBF

theorem completes_two {a : UInt8} (h : 0xC2 ≤ a.toNat) (h' : a.toNat < 0xE0) :
    Completes [a] 0 (a.toNat - 0xC0) 0x80 0xBF := by
  intro b hlow hhigh
  simp only [UInt8.le_iff_toNat_le, UInt8.reduceToNat] at hlow hhigh
  unfold extend
  exact utf8EncodeChar_two (by omega) (by omega) (by omega) (by omega)

theorem completes_three {a : UInt8} (h : 0xE0 ≤ a.toNat) (h' : a.toNat < 0xF0) :
    Completes [a] 1 (a.toNat - 0xE0) (if a.toNat = 0xE0 then 0xA0 else 0x80)
      (if a.toNat = 0xED then 0x9F else 0xBF) := by
  intro b hlow hhigh c hlow' hhigh'
  simp only [UInt8.le_iff_toNat_le, apply_ite UInt8.toNat, UInt8.reduceToNat] at *
  -- the range of the second byte leaves out overlong forms and surrogates
  have hfirst : 0x80 ≤ b.toNat ∧ (a.toNat = 0xE0 → 0xA0 ≤ b.toNat) := by split at hlow <;> omega
  have hsurrogate : b.toNat ≤ 0xBF ∧ (a.toNat = 0xED → b.toNat ≤ 0x9F) := by
    split at hhigh <;> omega
  have hvalid : (extend (extend (a.toNat - 0xE0) b) c).isValidChar := by
    unfold extend Nat.isValidChar
    omega
  unfold extend at hvalid ⊢
  exact utf8EncodeChar_three (by omega) (by omega) hvalid (by omega) (by omega) (by omega)

theorem completes_four {a : UInt8} (h : 0xF0 ≤ a.toNat) (h' : a.toNat < 0xF5) :
    Completes [a] 2 (a.toNat - 0xF0) (if a.toNat = 0xF0 then 0x90 else 0x80)
      (if a.toNat = 0xF4 then 0x8F else 0xBF) := by
  intro b hlow hhigh c hlow' hhigh' d hlow'' hhigh''
  simp only [UInt8.le_iff_toNat_le, apply_ite UInt8.toNat, UInt8.reduceToNat] at *
  -- the range of the second byte leaves out overlong forms and what lies above U+10FFFF
  have hfirst : 0x80 ≤ b.toNat ∧ (a.toNat = 0xF0 → 0x90 ≤ b.toNat) := by split at hlow <;> omega
  have hlast : b.toNat ≤ 0xBF ∧ (a.toNat = 0xF4 → b.toNat ≤ 0x8F) := by split at hhigh <;> omega
  unfold extend
  exact utf8EncodeChar_four (by omega) (by omega) (by omega) (by omega) (by omega) (by omega)

/-! ## Bytes that are decoded -/

/-- The bytes read are those of the characters done and those of the open sequence. -/
def Reads (bytes : List UInt8) (s : Utf8State) : Prop :=
  match s.sequence with
  | none => toUtf8 s.done.reverse = bytes
  | some o => ∃ part, toUtf8 s.done.reverse ++ part = bytes ∧
      Completes part o.left o.bits o.low o.high

theorem toUtf8_append (t u : Text) : toUtf8 (t ++ u) = toUtf8 t ++ toUtf8 u :=
  List.flatMap_append

theorem toUtf8_singleton (c : Char) : toUtf8 [c] = utf8EncodeChar c := by
  simp [toUtf8]

theorem toUtf8_done (c : Char) (done : Text) :
    toUtf8 (c :: done).reverse = toUtf8 done.reverse ++ utf8EncodeChar c := by
  rw [List.reverse_cons, toUtf8_append, toUtf8_singleton]

theorem reads_lead {bytes : List UInt8} {s s' : Utf8State} {b : UInt8}
    (h : toUtf8 s.done.reverse = bytes) (hs : s.lead b = .ok s') : Reads (bytes ++ [b]) s' := by
  subst h
  have hopened : ∀ {left bits low high}, Completes [b] left bits low high →
      Reads (toUtf8 s.done.reverse ++ [b]) (s.opened b left bits low high) :=
    fun hcompletes => ⟨[b], rfl, hcompletes⟩
  by_cases hone : b.toNat < 0x80
  · obtain rfl := Except.ok.inj ((s.lead_one hone).symm.trans hs)
    exact (toUtf8_done _ _).trans (congrArg _ (utf8EncodeChar_one hone rfl))
  by_cases hbad : b.toNat < 0xC2 ∨ 0xF5 ≤ b.toNat
  · cases (s.lead_error (by omega) hbad).symm.trans hs
  by_cases htwo : b.toNat < 0xE0
  · obtain rfl := Except.ok.inj ((s.lead_two (by omega) htwo).symm.trans hs)
    exact hopened (completes_two (by omega) htwo)
  by_cases hthree : b.toNat < 0xF0
  · obtain rfl := Except.ok.inj ((s.lead_three (by omega) hthree).symm.trans hs)
    exact hopened (completes_three (by omega) hthree)
  · obtain rfl := Except.ok.inj ((s.lead_four (by omega) (by omega)).symm.trans hs)
    exact hopened (completes_four (by omega) (by omega))

namespace Utf8State

/-- The next byte completes an open sequence or leaves it open. -/
def continued (s : Utf8State) (o : Utf8Open) (b : UInt8) : Utf8State :=
  match o.left with
  | 0 => ⟨Char.ofNat (extend o.bits b) :: s.done, s.position + 1, none⟩
  | left + 1 => ⟨s.done, s.position + 1,
      some ⟨o.start, o.first, o.read + 1, left, extend o.bits b, 0x80, 0xBF⟩⟩

theorem continuation_of_inRange (s : Utf8State) {o : Utf8Open} {b : UInt8} (hlow : o.low ≤ b)
    (hhigh : b ≤ o.high) : s.continuation o b = .ok (s.continued o b) := by
  simp only [continuation, hlow, hhigh, decide_true, Bool.and_self, if_true, continued]
  cases o.left with
  | zero => rfl
  | succ left => rfl

theorem inRange_of_continuation {s s' : Utf8State} {o : Utf8Open} {b : UInt8}
    (h : s.continuation o b = .ok s') : o.low ≤ b ∧ b ≤ o.high := by
  unfold continuation at h
  split at h
  · rename_i hrange
    simpa using hrange
  · cases h

end Utf8State

theorem reads_continued {bytes part : List UInt8} {s : Utf8State} {o : Utf8Open} {b : UInt8}
    (h : toUtf8 s.done.reverse ++ part = bytes) (ho : Completes part o.left o.bits o.low o.high)
    (hlow : o.low ≤ b) (hhigh : b ≤ o.high) : Reads (bytes ++ [b]) (s.continued o b) := by
  subst h
  unfold continued
  cases hleft : o.left with
  | zero =>
    rw [hleft] at ho
    have hchar : utf8EncodeChar (Char.ofNat (extend o.bits b)) = part ++ [b] := ho b hlow hhigh
    exact (toUtf8_done _ _).trans (by rw [hchar, List.append_assoc])
  | succ left =>
    rw [hleft] at ho
    exact ⟨part ++ [b], (List.append_assoc _ _ _).symm, ho b hlow hhigh⟩

theorem reads_step {bytes : List UInt8} {s s' : Utf8State} {b : UInt8} (h : Reads bytes s)
    (hs : s.step b = .ok s') : Reads (bytes ++ [b]) s' := by
  unfold Reads at h
  unfold step at hs
  split at hs
  · rename_i hnone
    rw [hnone] at h
    exact reads_lead h hs
  · rename_i o hsome
    rw [hsome] at h
    obtain ⟨part, hpart, ho⟩ := h
    obtain ⟨hlow, hhigh⟩ := inRange_of_continuation hs
    obtain rfl := Except.ok.inj ((s.continuation_of_inRange hlow hhigh).symm.trans hs)
    exact reads_continued hpart ho hlow hhigh

theorem reads_foldlM {bytes rest : List UInt8} {s s' : Utf8State} (h : Reads bytes s)
    (hs : rest.foldlM step s = .ok s') : Reads (bytes ++ rest) s' := by
  induction rest generalizing bytes s with
  | nil =>
    obtain rfl := Except.ok.inj hs
    rwa [List.append_nil]
  | cons b rest ih =>
    rw [List.foldlM_cons, bind_eq_ok_iff] at hs
    obtain ⟨next, hnext, hs⟩ := hs
    rw [List.append_cons]
    exact ih (reads_step h hnext) hs

/-- **Bytes that are decoded are the encoding of the text.** -/
theorem toUtf8_of_ofUtf8 {bytes : List UInt8} {t : Text} (h : ofUtf8 bytes = .ok t) :
    toUtf8 t = bytes := by
  obtain ⟨s, hs, hfinish⟩ := bind_eq_ok_iff.mp h
  have hstart : Reads [] start := rfl
  have hreads : Reads ([] ++ bytes) s := reads_foldlM hstart hs
  unfold Reads at hreads
  unfold finish at hfinish
  split at hfinish
  · rename_i hnone
    rw [hnone] at hreads
    obtain rfl := Except.ok.inj hfinish
    exact hreads
  · cases hfinish

/-! ## Texts that are encoded -/

theorem foldlM_step_of_lead {s s' : Utf8State} {b : UInt8} {rest : List UInt8}
    (hs : s.sequence = none) (h : s.lead b = .ok s') :
    (b :: rest).foldlM step s = rest.foldlM step s' := by
  have hstep : s.step b = .ok s' := by rw [step, hs, h]
  rw [List.foldlM_cons, hstep]
  rfl

theorem foldlM_step_of_inRange {s : Utf8State} {o : Utf8Open} {b : UInt8} {rest : List UInt8}
    (hs : s.sequence = some o) (hlow : o.low ≤ b) (hhigh : b ≤ o.high) :
    (b :: rest).foldlM step s = rest.foldlM step (s.continued o b) := by
  have hstep : s.step b = .ok (s.continued o b) := by
    rw [step, hs]
    exact s.continuation_of_inRange hlow hhigh
  rw [List.foldlM_cons, hstep]
  rfl

theorem exists_byte {n : Nat} (h : n < 256) : ∃ a : UInt8, a.toNat = n :=
  ⟨UInt8.ofNat n, UInt8.toNat_ofNat_of_lt' h⟩

theorem tail_inRange {n : Nat} {b : UInt8} (hb : b.toNat = 0x80 + n % 64) :
    0x80 ≤ b ∧ b ≤ 0xBF := by
  simp only [UInt8.le_iff_toNat_le, UInt8.reduceToNat]
  omega

section

variable {p : Prop} [Decidable p] {x y b : UInt8}

theorem ite_le_of_le (hy : y ≤ b) (hx : p → x.toNat ≤ b.toNat) : (if p then x else y) ≤ b := by
  split
  · rename_i hp
    exact UInt8.le_iff_toNat_le.mpr (hx hp)
  · exact hy

theorem le_ite_of_le (hy : b ≤ y) (hx : p → b.toNat ≤ x.toNat) : b ≤ if p then x else y := by
  split
  · rename_i hp
    exact UInt8.le_iff_toNat_le.mpr (hx hp)
  · exact hy

end

/-- **The bytes of a character are decoded** to it. -/
theorem foldlM_step_utf8EncodeChar (c : Char) {s : Utf8State} (hs : s.sequence = none) :
    ∃ position, (utf8EncodeChar c).foldlM step s = .ok ⟨c :: s.done, position, none⟩ := by
  obtain ⟨v, hvalid, rfl⟩ : ∃ v : Nat, v.isValidChar ∧ c = Char.ofNat v :=
    ⟨c.toNat, c.valid, (Char.ofNat_toNat c).symm⟩
  have hv : v < 0xD800 ∨ 0xDFFF < v ∧ v < 0x110000 := hvalid
  by_cases hone : v < 0x80
  · obtain ⟨a, ha⟩ := exists_byte (n := v) (by omega)
    rw [utf8EncodeChar_one hone ha, foldlM_step_of_lead hs (s.lead_one (by omega)), ha]
    exact ⟨_, rfl⟩
  obtain ⟨last, hlast⟩ := exists_byte (n := 0x80 + v % 64) (by omega)
  obtain ⟨hlow, hhigh⟩ := tail_inRange hlast
  by_cases htwo : v < 0x800
  · obtain ⟨a, ha⟩ := exists_byte (n := 0xC0 + v / 64) (by omega)
    have hbits : extend (a.toNat - 0xC0) last = v := by
      unfold extend
      omega
    rw [utf8EncodeChar_two (by omega) htwo ha hlast,
      foldlM_step_of_lead hs (s.lead_two (by omega) (by omega)),
      foldlM_step_of_inRange rfl hlow hhigh, ← hbits]
    exact ⟨_, rfl⟩
  obtain ⟨third, hthird⟩ := exists_byte (n := 0x80 + v / 64 % 64) (by omega)
  obtain ⟨hlow', hhigh'⟩ := tail_inRange hthird
  by_cases hthree : v < 0x10000
  · obtain ⟨a, ha⟩ := exists_byte (n := 0xE0 + v / 64 / 64) (by omega)
    have hbits : extend (extend (a.toNat - 0xE0) third) last = v := by
      unfold extend
      omega
    have hfirst : (if a.toNat = 0xE0 then 0xA0 else 0x80) ≤ third :=
      ite_le_of_le hlow' fun hlead => show 0xA0 ≤ third.toNat by omega
    have hsurrogate : third ≤ (if a.toNat = 0xED then 0x9F else 0xBF) :=
      le_ite_of_le hhigh' fun hlead => show third.toNat ≤ 0x9F by omega
    rw [utf8EncodeChar_three (by omega) hthree hvalid ha hthird hlast,
      foldlM_step_of_lead hs (s.lead_three (by omega) (by omega)),
      foldlM_step_of_inRange rfl hfirst hsurrogate, foldlM_step_of_inRange rfl hlow hhigh, ← hbits]
    exact ⟨_, rfl⟩
  · obtain ⟨second, hsecond⟩ := exists_byte (n := 0x80 + v / 64 / 64 % 64) (by omega)
    obtain ⟨hlow'', hhigh''⟩ := tail_inRange hsecond
    obtain ⟨a, ha⟩ := exists_byte (n := 0xF0 + v / 64 / 64 / 64) (by omega)
    have hbits : extend (extend (extend (a.toNat - 0xF0) second) third) last = v := by
      unfold extend
      omega
    have hfirst : (if a.toNat = 0xF0 then 0x90 else 0x80) ≤ second :=
      ite_le_of_le hlow'' fun hlead => show 0x90 ≤ second.toNat by omega
    have hfinal : second ≤ (if a.toNat = 0xF4 then 0x8F else 0xBF) :=
      le_ite_of_le hhigh'' fun hlead => show second.toNat ≤ 0x8F by omega
    rw [utf8EncodeChar_four (by omega) (by omega) ha hsecond hthird hlast,
      foldlM_step_of_lead hs (s.lead_four (by omega) (by omega)),
      foldlM_step_of_inRange rfl hfirst hfinal, foldlM_step_of_inRange rfl hlow' hhigh',
      foldlM_step_of_inRange rfl hlow hhigh, ← hbits]
    exact ⟨_, rfl⟩

theorem foldlM_step_toUtf8 (t : Text) {s : Utf8State} (hs : s.sequence = none) :
    ∃ position, (toUtf8 t).foldlM step s = .ok ⟨t.reverse ++ s.done, position, none⟩ := by
  induction t generalizing s with
  | nil =>
    obtain ⟨done, position, sequence⟩ := s
    obtain rfl : sequence = none := hs
    exact ⟨position, rfl⟩
  | cons c t ih =>
    obtain ⟨position, hchar⟩ := foldlM_step_utf8EncodeChar c hs
    obtain ⟨position', hrest⟩ := ih (s := ⟨c :: s.done, position, none⟩) rfl
    refine ⟨position', ?_⟩
    have hbytes : toUtf8 (c :: t) = utf8EncodeChar c ++ toUtf8 t := List.flatMap_cons
    rw [hbytes, List.foldlM_append, hchar, List.reverse_cons, List.append_assoc]
    exact hrest

/-- **What is encoded is decoded again.** -/
theorem ofUtf8_toUtf8 (t : Text) : ofUtf8 (toUtf8 t) = .ok t := by
  obtain ⟨position, hs⟩ := foldlM_step_toUtf8 t (s := start) rfl
  rw [ofUtf8, hs]
  show Except.ok (t.reverse ++ []).reverse = _
  rw [List.append_nil, List.reverse_reverse]

/-- **Exactly the bytes that encode a text are decoded**, and to that text. -/
theorem ofUtf8_eq_ok_iff {bytes : List UInt8} {t : Text} :
    ofUtf8 bytes = .ok t ↔ toUtf8 t = bytes := by
  refine ⟨toUtf8_of_ofUtf8, ?_⟩
  rintro rfl
  exact ofUtf8_toUtf8 t

end Widgetry.Text
