import Widgetry.Proofs.Frameworks
import Widgetry.Proofs.Utf8

/-!
# Texts that are sent

Every source text that a service accepts can be sent to it: there is a body that carries it on the
framework that runs (`carries_bodyOf`). In the body the text stands as a JSON string, in which
quotes, backslashes and control characters are escaped by their number.

The reader takes a string code point by code point, and all of them leave the builder as it is until
the string closes. So the invariant is what stands in the string so far, and each character adds its
code point, however it is written (`foldlM_step_escape`).
-/

namespace Widgetry

open Text

namespace Json

/-- A character in a string. -/
def escape (c : Char) : Text :=
  if c = '"' ∨ c = '\\' ∨ c.toNat < 0x20 then
    "\\u00".toList ++ [Nat.digitChar (c.toNat / 16), Nat.digitChar (c.toNat % 16)]
  else [c]

/-! ## Steps -/

/-- One code point is taken. -/
theorem foldlM_step_cons {reading reading' : Reading} {b b' : Builder} {ended : List Lexeme}
    {point : Nat} (h : reading.step? point = some (reading', ended)) (hb : b.take ended = .ok b')
    (points : List Nat) :
    (point :: points).foldlM Reader.step ⟨reading, b⟩ =
      points.foldlM Reader.step ⟨reading', b'⟩ := by
  rw [List.foldlM_cons, Reader.step]
  dsimp only
  rw [h]
  dsimp only
  rw [hb]
  rfl

theorem take_nil (b : Builder) : b.take [] = .ok b := rfl

theorem charOf?_toNat (c : Char) : charOf? c.toNat = some c := charOf?_eq_some_iff.mpr rfl

theorem hexDigit?_digitChar : ∀ d < 16, hexDigit? (Nat.digitChar d) = some d := by decide

section

variable (units : List Nat) (code : Nat) {d : Nat} (hd : d < 16)

include hd

theorem step?_number (missing : Nat) :
    (Reading.number units (missing + 1) code).step? (Nat.digitChar d).toNat =
      some (.number units missing (16 * code + d), []) := by
  simp [Reading.step?, charOf?_toNat, hexDigit?_digitChar d hd]

theorem step?_number_zero :
    (Reading.number units 0 code).step? (Nat.digitChar d).toNat =
      some (.string ((16 * code + d) :: units), []) := by
  simp [Reading.step?, charOf?_toNat, hexDigit?_digitChar d hd]

end

/-! ## Strings -/

/-- **A character adds its code point** to the string. -/
theorem foldlM_step_escape (units points : List Nat) (b : Builder) (c : Char) :
    (codePoints (escape c) ++ points).foldlM Reader.step ⟨.string units, b⟩ =
      points.foldlM Reader.step ⟨.string (c.toNat :: units), b⟩ := by
  have htake := take_nil b
  rw [escape]
  split_ifs with h
  · have hsmall : c.toNat < 128 := by
      rcases h with rfl | rfl | h
      · decide
      · decide
      · omega
    have hvalue : 16 * (16 * 0 + c.toNat / 16) + c.toNat % 16 = c.toNat := by omega
    have hbackslash : (Reading.string units).step? '\\'.toNat = some (.escape units, []) := rfl
    have hletter : (Reading.escape units).step? 'u'.toNat = some (.number units 3 0, []) := rfl
    show ('\\'.toNat :: 'u'.toNat :: (Nat.digitChar 0).toNat :: (Nat.digitChar 0).toNat ::
      (Nat.digitChar (c.toNat / 16)).toNat :: (Nat.digitChar (c.toNat % 16)).toNat ::
        points).foldlM Reader.step ⟨.string units, b⟩ = _
    rw [foldlM_step_cons hbackslash htake, foldlM_step_cons hletter htake,
      foldlM_step_cons (step?_number units 0 (by decide) 2) htake,
      foldlM_step_cons (step?_number units _ (by decide) 1) htake,
      foldlM_step_cons (step?_number units _ (by omega) 0) htake,
      foldlM_step_cons (step?_number_zero units _ (by omega)) htake, hvalue]
  · rw [not_or, not_or] at h
    obtain ⟨hquote, hbackslash, hcontrol⟩ := h
    refine foldlM_step_cons ?_ htake points
    simp [Reading.step?, charOf?_toNat, hquote, hbackslash, Nat.not_lt.mp hcontrol]

theorem foldlM_step_escapes (t : Text) (units points : List Nat) (b : Builder) :
    (codePoints (t.flatMap escape) ++ points).foldlM Reader.step ⟨.string units, b⟩ =
      points.foldlM Reader.step ⟨.string ((codePoints t).reverse ++ units), b⟩ := by
  induction t generalizing units with
  | nil => rfl
  | cons c t ih =>
    have hpoints : codePoints ((c :: t).flatMap escape) =
        codePoints (escape c) ++ codePoints (t.flatMap escape) := by simp [codePoints]
    have hunits : (codePoints (c :: t)).reverse ++ units =
        (codePoints t).reverse ++ c.toNat :: units := by simp [codePoints]
    rw [hpoints, List.append_assoc, foldlM_step_escape, ih, hunits]

/-- No code point of a text is half of a pair. -/
theorem push_toNat (c : Char) (points : List Nat) :
    Joined.push ⟨none, points⟩ c.toNat = ⟨none, c.toNat :: points⟩ := by
  have hvalid : c.toNat < 0xD800 ∨ 0xDFFF < c.toNat ∧ c.toNat < 0x110000 := c.valid
  have hlow : isLowSurrogate c.toNat = false := by simp [isLowSurrogate]; omega
  have hhigh : isHighSurrogate c.toNat = false := by simp [isHighSurrogate]; omega
  rw [Joined.push, hlow, hhigh]
  rfl

theorem joinReversed_codePoints (t : Text) :
    joinReversed (codePoints t).reverse = codePoints t := by
  have hpush : (codePoints t).foldr (fun u j => Joined.push j u) ⟨none, []⟩ =
      ⟨none, codePoints t⟩ := by
    induction t with
    | nil => rfl
    | cons c t ih =>
      show Joined.push ((codePoints t).foldr _ _) c.toNat = _
      rw [ih, push_toNat]
      rfl
  rw [joinReversed, List.foldl_reverse, hpush]
  rfl

/-- **A string is read as the text that it was written from.** -/
theorem foldlM_step_string {b b' : Builder} {t : Text}
    (hb : b.take [.string (codePoints t)] = .ok b') (points : List Nat) :
    ('"'.toNat :: (codePoints (t.flatMap escape) ++ '"'.toNat :: points)).foldlM Reader.step
        ⟨.nothing, b⟩ =
      points.foldlM Reader.step ⟨.nothing, b'⟩ := by
  have hopen : Reading.nothing.step? '"'.toNat = some (.string [], []) := rfl
  have hclose : (Reading.string (codePoints t).reverse).step? '"'.toNat =
      some (.nothing, [.string (joinReversed (codePoints t).reverse)]) := rfl
  rw [joinReversed_codePoints] at hclose
  rw [foldlM_step_cons hopen (take_nil b), foldlM_step_escapes, List.append_nil,
    foldlM_step_cons hclose hb]

end Json

/-! ## Bodies -/

namespace Http

open Json

/-- The body of a request with a source text. -/
def bodyOf (source : Text) : Text :=
  '\x7b' :: '"' :: (Schema.sourceText.key.flatMap escape ++
    '"' :: ':' :: '"' :: (source.flatMap escape ++ ['"', '\x7d']))

/-- The value that the body of a request denotes. -/
theorem readRaw_bodyOf (source : Text) :
    readRaw (codePoints (bodyOf source)) =
      .ok (.obj [(codePoints Schema.sourceText.key, .str (codePoints source))]) := by
  have hpoints : codePoints (bodyOf source) =
      '\x7b'.toNat :: '"'.toNat :: (codePoints (Schema.sourceText.key.flatMap escape) ++
        '"'.toNat :: ':'.toNat :: '"'.toNat :: (codePoints (source.flatMap escape) ++
          '"'.toNat :: '\x7d'.toNat :: [])) := by
    simp [bodyOf, codePoints]
  have hopen : Reading.nothing.step? '\x7b'.toNat = some (.nothing, [.openObject]) := rfl
  have hcolon : Reading.nothing.step? ':'.toNat = some (.nothing, [.colon]) := rfl
  have hclose : Reading.nothing.step? '\x7d'.toNat = some (.nothing, [.closeObject]) := rfl
  rw [readRaw, hpoints, Reader.start, foldlM_step_cons hopen rfl, foldlM_step_string rfl,
    foldlM_step_cons hcolon rfl, foldlM_step_string rfl, foldlM_step_cons hclose rfl]
  rfl

/-- The body begins with four characters of one byte each. -/
theorem decode?_bodyOf (source : Text) :
    (Encoding.detect (toUtf8 (bodyOf source))).decode? (toUtf8 (bodyOf source)) =
      some (codePoints (bodyOf source)) := by
  have hkey : Schema.sourceText.key.flatMap escape = "source_text".toList := by decide
  have hfront : toUtf8 ['\x7b', '"', 's', 'o'] = [0x7B, 0x22, 0x73, 0x6F] := by decide
  have hbody : bodyOf source = ['\x7b', '"', 's', 'o'] ++ ("urce_text".toList ++
      '"' :: ':' :: '"' :: (source.flatMap escape ++ ['"', '\x7d'])) := by
    rw [bodyOf, hkey]
    rfl
  have hdetect : Encoding.detect (toUtf8 (bodyOf source)) = .utf8 := by
    rw [hbody, toUtf8_append, hfront]
    rfl
  rw [hdetect, Encoding.decode?, ofUtf8_toUtf8]
  rfl

theorem decode_bodyOf (method path source : Text) :
    standard.decode ⟨method, path, bodyOf source⟩ =
      .ok (.obj [(codePoints Schema.sourceText.key, .str (codePoints source))]) := by
  have hne : bodyOf source ≠ [] := List.cons_ne_nil _ _
  show Request.decode ⟨method, path, bodyOf source⟩ = _
  rw [Request.decode, if_neg hne]
  dsimp only
  rw [decode?_bodyOf, Option.map_some, readRaw_bodyOf]

/-- **Every source text can be sent.** -/
theorem carries_bodyOf {source : Text} (hpos : 1 ≤ source.length)
    (hlen : source.length ≤ Schema.sourceText.most) (method path : Text) :
    standard.Carries ⟨method, path, bodyOf source⟩ source :=
  ⟨_, decode_bodyOf method path source, _, rfl, List.lookup_cons_self, hpos, hlen⟩

end Http

end Widgetry
