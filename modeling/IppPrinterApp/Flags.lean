/-
  File:      IppPrinterApp/Flags.lean
  Subject:   `printer-state-reasons` as a bit set (flags.rs).
-/
import Mathlib.Data.BitVec

namespace IppPrinterApp

/-- `PrinterReason`: a set of flags over 32 bits. -/
structure PrinterReason where
  bits : BitVec 32
  deriving DecidableEq, Repr

namespace PrinterReason

def empty : PrinterReason := ⟨0⟩
def union (a b : PrinterReason) : PrinterReason := ⟨a.bits ||| b.bits⟩
def contains (a b : PrinterReason) : Bool := a.bits &&& b.bits == b.bits
def intersects (a b : PrinterReason) : Bool := a.bits &&& b.bits != 0
def isEmpty (a : PrinterReason) : Bool := a.bits == 0

def OTHER : PrinterReason := ⟨0x0001⟩
def COVER_OPEN : PrinterReason := ⟨0x0002⟩
def INPUT_TRAY_MISSING : PrinterReason := ⟨0x0004⟩
def MARKER_SUPPLY_EMPTY : PrinterReason := ⟨0x0008⟩
def MARKER_SUPPLY_LOW : PrinterReason := ⟨0x0010⟩
def MARKER_WASTE_ALMOST_FULL : PrinterReason := ⟨0x0020⟩
def MARKER_WASTE_FULL : PrinterReason := ⟨0x0040⟩
def MEDIA_EMPTY : PrinterReason := ⟨0x0080⟩
def MEDIA_JAM : PrinterReason := ⟨0x0100⟩
def MEDIA_LOW : PrinterReason := ⟨0x0200⟩
def MEDIA_NEEDED : PrinterReason := ⟨0x0400⟩
def OFFLINE : PrinterReason := ⟨0x0800⟩
def SPOOL_AREA_FULL : PrinterReason := ⟨0x1000⟩
def TONER_EMPTY : PrinterReason := ⟨0x2000⟩
def TONER_LOW : PrinterReason := ⟨0x4000⟩
def DOOR_OPEN : PrinterReason := ⟨0x8000⟩
def IDENTIFY_PRINTER_REQUESTED : PrinterReason := ⟨0x10000⟩

/-- The keyword of each flag, in the order CUPS expects. -/
def table : List (PrinterReason × String) :=
  [(OTHER, "other"), (COVER_OPEN, "cover-open"), (DOOR_OPEN, "door-open"),
    (INPUT_TRAY_MISSING, "input-tray-missing"), (MARKER_SUPPLY_EMPTY, "marker-supply-empty"),
    (MARKER_SUPPLY_LOW, "marker-supply-low"),
    (MARKER_WASTE_ALMOST_FULL, "marker-waste-almost-full"),
    (MARKER_WASTE_FULL, "marker-waste-full"), (MEDIA_EMPTY, "media-empty"),
    (MEDIA_JAM, "media-jam"), (MEDIA_LOW, "media-low"), (MEDIA_NEEDED, "media-needed"),
    (OFFLINE, "offline-report"), (SPOOL_AREA_FULL, "spool-area-full"),
    (TONER_EMPTY, "toner-empty"), (TONER_LOW, "toner-low"),
    (IDENTIFY_PRINTER_REQUESTED, "identify-printer-requested")]

/-- `ipp_keywords`: the keywords of the flags set, `none` for the empty set. -/
def ippKeywords (r : PrinterReason) : List String :=
  if r.isEmpty then ["none"] else (table.filter fun e => r.contains e.1).map Prod.snd

theorem contains_iff {a b : PrinterReason} :
    a.contains b = true ↔ ∀ i : Nat, b.bits.getLsbD i = true → a.bits.getLsbD i = true := by
  unfold contains
  rw [beq_iff_eq]
  constructor
  · intro h i hi
    rw [← h, BitVec.getLsbD_and] at hi
    exact (Bool.and_eq_true_iff.mp hi).1
  · intro h
    refine BitVec.eq_of_getLsbD_eq fun i _ => ?_
    rw [BitVec.getLsbD_and]
    cases hb : b.bits.getLsbD i with
    | true => rw [h i hb, Bool.and_self]
    | false => exact Bool.and_false _

theorem contains_trans {a b c : PrinterReason} (hab : a.contains b = true)
    (hbc : b.contains c = true) : a.contains c = true :=
  contains_iff.mpr fun i hi => contains_iff.mp hab i (contains_iff.mp hbc i hi)

/-- A union with a set that has it all. -/
theorem union_eq_right_iff {a b : PrinterReason} : a.union b = b ↔ b.contains a = true := by
  rw [contains_iff]
  unfold union
  rw [PrinterReason.mk.injEq]
  constructor
  · intro h i hi
    rw [← h, BitVec.getLsbD_or, hi, Bool.true_or]
  · intro h
    refine BitVec.eq_of_getLsbD_eq fun i _ => ?_
    rw [BitVec.getLsbD_or]
    cases ha : a.bits.getLsbD i with
    | true => rw [h i ha, Bool.or_self]
    | false => exact Bool.false_or _

/-- Sets that do not intersect have no flags in common. -/
theorem intersects_eq_false_iff {a b : PrinterReason} : a.intersects b = false ↔
    ∀ r : PrinterReason, a.contains r = true → b.contains r = true → empty.contains r = true := by
  unfold intersects
  rw [bne_eq_false_iff_eq]
  constructor
  · intro h r ha hb
    refine contains_iff.mpr fun i hi => ?_
    show (0 : BitVec 32).getLsbD i = true
    rw [← h, BitVec.getLsbD_and, contains_iff.mp ha i hi, contains_iff.mp hb i hi, Bool.and_self]
  · intro h
    have hboth := h ⟨a.bits &&& b.bits⟩
      (contains_iff.mpr fun i hi => by
        rw [BitVec.getLsbD_and] at hi
        exact (Bool.and_eq_true_iff.mp hi).1)
      (contains_iff.mpr fun i hi => by
        rw [BitVec.getLsbD_and] at hi
        exact (Bool.and_eq_true_iff.mp hi).2)
    unfold contains empty at hboth
    exact (beq_iff_eq.mp hboth).symm.trans BitVec.zero_and

end PrinterReason

end IppPrinterApp
