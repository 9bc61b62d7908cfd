/-!
# Text in 16-bit units

Reading pairs of bytes as text in UTF-16. A code point beyond the first plane takes two units, which
must not stand alone.
-/

namespace Autoscaler.Text

/-- Units from bytes in pairs, of which the low byte comes first or last. -/
def units16 (lowFirst : Bool) : List UInt8 → List Nat
  | a :: b :: rest =>
    (if lowFirst then b.toNat * 256 + a.toNat else a.toNat * 256 + b.toNat) ::
      units16 lowFirst rest
  | _ => []

/-- The characters of units, unless one half of a pair stands alone. -/
def ofUnits16? : List Nat → Option (List Char)
  | [] => some []
  | high :: rest =>
    if high < 0xD800 ∨ 0xE000 ≤ high then (ofUnits16? rest).map (Char.ofNat high :: ·)
    else match rest with
      | [] => none
      | low :: rest =>
        if high < 0xDC00 ∧ 0xDC00 ≤ low ∧ low < 0xE000 then
          let code := 0x10000 + (high - 0xD800) * 0x400 + (low - 0xDC00)
          (ofUnits16? rest).map (Char.ofNat code :: ·)
        else none

end Autoscaler.Text
