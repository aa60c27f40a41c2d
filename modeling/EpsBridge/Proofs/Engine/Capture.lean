import EpsBridge.Engine.Fixture
import EpsBridge.Proofs.Text.Utf8
import Mathlib.Data.List.Induction

/-!
# What a capture keeps

A channel of a capture keeps the beginning of what is written to it.  However the
writes are cut and however the channels take turns, what is kept in the end is
the first `limit` bytes of the channel's writes, one after another
(`toList_kept_writeAll`).

The flag is shared by the channels.  It is set by the write that goes beyond the
limit of its channel, and no write takes it back (`truncated_writeAll_withLimit`).
So a capture says nothing about its writes but what their bytes are
(`Holds.unique`), and a character whose bytes come in two writes is read like any
other.
-/

namespace EpsBridge

/-- The bytes that writes put on a channel, were there no limit. -/
def writtenTo (channel : Channel) (writes : List (Channel × ByteArray)) : List UInt8 :=
  writes.flatMap fun (target, bytes) => if target = channel then bytes.toList else []

@[simp] theorem writtenTo_nil (channel : Channel) : writtenTo channel [] = [] := rfl

theorem writtenTo_cons (channel target : Channel) (bytes : ByteArray)
    (writes : List (Channel × ByteArray)) :
    writtenTo channel ((target, bytes) :: writes) =
      (if target = channel then bytes.toList else []) ++ writtenTo channel writes := by
  simp [writtenTo]

@[simp] theorem writtenTo_append (channel : Channel) (first second : List (Channel × ByteArray)) :
    writtenTo channel (first ++ second) = writtenTo channel first ++ writtenTo channel second := by
  simp [writtenTo]

namespace Capture

/-! ## One write -/

@[simp] theorem limit_write (capture : Capture) (channel : Channel) (bytes : ByteArray) :
    (capture.write channel bytes).limit = capture.limit := by
  cases channel <;> rfl

theorem kept_write (capture : Capture) (channel target : Channel) (bytes : ByteArray) :
    (capture.write target bytes).kept channel =
      if target = channel then
        capture.kept channel ++ fitting capture.limit (capture.kept channel) bytes
      else capture.kept channel := by
  cases channel <;> cases target <;> rfl

/-- What is kept stays within the limit. -/
def Fits (capture : Capture) : Prop :=
  ∀ channel, (capture.kept channel).toList.length ≤ capture.limit

theorem fits_withLimit (limit : Nat) : (withLimit limit).Fits := by
  intro channel
  cases channel <;> simp [withLimit, kept]

/-- A write adds as much as fits, so what is kept is a beginning again. -/
theorem toList_kept_write {capture : Capture} (hfits : capture.Fits) (channel target : Channel)
    (bytes : ByteArray) :
    ((capture.write target bytes).kept channel).toList =
      ((capture.kept channel).toList ++ writtenTo channel [(target, bytes)]).take
        capture.limit := by
  have hroom := hfits channel
  rw [kept_write, writtenTo_cons, writtenTo_nil, List.append_nil]
  by_cases htarget : target = channel
  · rw [if_pos htarget, if_pos htarget, toList_append, fitting, toList_extract_zero,
      List.take_append, List.take_of_length_le hroom, length_toList]
  · rw [if_neg htarget, if_neg htarget, List.append_nil, List.take_of_length_le hroom]

theorem fits_write {capture : Capture} (hfits : capture.Fits) (target : Channel)
    (bytes : ByteArray) : (capture.write target bytes).Fits := by
  intro channel
  rw [toList_kept_write hfits, limit_write]
  exact List.length_take_le _ _

/-! ## Any number of writes -/

/-- Cutting early does not matter where everything is cut in the end. -/
theorem take_take_append (limit : Nat) (kept more : List UInt8) :
    (kept.take limit ++ more).take limit = (kept ++ more).take limit := by
  rw [List.take_append, List.take_append, List.take_take, Nat.min_self, List.length_take]
  congr 2
  omega

/-- Each channel keeps the first `limit` bytes of what it held and of what is
written to it. -/
theorem toList_kept_writeAll {capture : Capture} (hfits : capture.Fits) (channel : Channel)
    (writes : List (Channel × ByteArray)) :
    ((Fixture.writeAll capture writes).kept channel).toList =
      ((capture.kept channel).toList ++ writtenTo channel writes).take capture.limit := by
  induction writes generalizing capture with
  | nil => simpa [Fixture.writeAll] using (List.take_of_length_le (hfits channel)).symm
  | cons write rest ih =>
      obtain ⟨target, bytes⟩ := write
      calc ((Fixture.writeAll capture ((target, bytes) :: rest)).kept channel).toList
          = ((Fixture.writeAll (capture.write target bytes) rest).kept channel).toList := rfl
        _ = (((capture.kept channel).toList ++ writtenTo channel [(target, bytes)]).take
              capture.limit ++ writtenTo channel rest).take capture.limit := by
            rw [ih (fits_write hfits target bytes), toList_kept_write hfits, limit_write]
        _ = ((capture.kept channel).toList ++ writtenTo channel ((target, bytes) :: rest)).take
              capture.limit := by
            rw [take_take_append, List.append_assoc, ← writtenTo_append, List.singleton_append]

/-- A capture that begins empty keeps the first `limit` bytes of what is written. -/
theorem toList_kept_writeAll_withLimit (limit : Nat) (channel : Channel)
    (writes : List (Channel × ByteArray)) :
    ((Fixture.writeAll (withLimit limit) writes).kept channel).toList =
      (writtenTo channel writes).take limit := by
  have hempty : ((withLimit limit).kept channel).toList = [] := by
    cases channel <;> simp [withLimit, kept]
  rw [toList_kept_writeAll (fits_withLimit limit), hempty, List.nil_append]
  rfl

theorem writeAll_append (capture : Capture) (first second : List (Channel × ByteArray)) :
    Fixture.writeAll capture (first ++ second) =
      Fixture.writeAll (Fixture.writeAll capture first) second :=
  List.foldl_append

/-- The capture of a run holds the writes of both its calls, as far as the limit goes. -/
theorem toList_kept_run (channel : Channel) (first second : List (Channel × ByteArray)) :
    ((Fixture.writeAll (Fixture.writeAll .empty first) second).kept channel).toList =
      (writtenTo channel (first ++ second)).take defaultLimit := by
  rw [← writeAll_append, empty, toList_kept_writeAll_withLimit]

/-- The text of a channel is the decoded form of what is kept. -/
theorem text_eq_decode (capture : Capture) (channel : Channel) :
    capture.text channel = Utf8.decode (capture.kept channel).toList :=
  Utf8.decodeArray_eq_decode _

/-! ## The flag -/

theorem truncated_write (capture : Capture) (target : Channel) (bytes : ByteArray) :
    (capture.write target bytes).truncated =
      (capture.truncated || decide (capture.limit - (capture.kept target).size < bytes.size)) := by
  cases target <;> rfl

@[simp] theorem limit_writeAll (capture : Capture) (writes : List (Channel × ByteArray)) :
    (Fixture.writeAll capture writes).limit = capture.limit := by
  induction writes generalizing capture with
  | nil => rfl
  | cons write rest ih => exact (ih _).trans (limit_write _ _ _)

theorem length_writtenTo_singleton (channel target : Channel) (bytes : ByteArray) :
    (writtenTo channel [(target, bytes)]).length = if target = channel then bytes.size else 0 := by
  rw [writtenTo_cons, writtenTo_nil, List.append_nil]
  split <;> simp

/-- A channel was beyond its limit, or a write has no room: that is so if it ends there. -/
theorem exceeds_iff {limit written size : Nat} :
    limit < written ∨ limit - min limit written < size ↔ limit < written + size := by
  omega

/-- Something was dropped if and only if more was written to a channel than it may keep. -/
theorem truncated_writeAll_withLimit (limit : Nat) (writes : List (Channel × ByteArray)) :
    (Fixture.writeAll (withLimit limit) writes).truncated = true ↔
      ∃ channel, limit < (writtenTo channel writes).length := by
  induction writes using List.reverseRecOn with
  | nil => simp [Fixture.writeAll, withLimit]
  | append_singleton past write ih =>
      obtain ⟨target, bytes⟩ := write
      have hkept : ((Fixture.writeAll (withLimit limit) past).kept target).size =
          min limit (writtenTo target past).length := by
        rw [← length_toList, toList_kept_writeAll_withLimit, List.length_take]
      have hlength : ∀ channel, (writtenTo channel (past ++ [(target, bytes)])).length =
          (writtenTo channel past).length + if target = channel then bytes.size else 0 := by
        intro channel
        rw [writtenTo_append, List.length_append, length_writtenTo_singleton]
      have hlast : (Fixture.writeAll (withLimit limit) (past ++ [(target, bytes)])).truncated =
          true ↔ (∃ channel, limit < (writtenTo channel past).length) ∨
            limit - min limit (writtenTo target past).length < bytes.size := by
        rw [writeAll_append]
        change ((Fixture.writeAll (withLimit limit) past).write target bytes).truncated = true ↔ _
        rw [truncated_write, Bool.or_eq_true, ih, decide_eq_true_eq, hkept, limit_writeAll]
        exact Iff.rfl
      rw [hlast]
      constructor
      · rintro (⟨channel, hlonger⟩ | hroom)
        · refine ⟨channel, ?_⟩
          rw [hlength]
          exact Nat.lt_add_right _ hlonger
        · refine ⟨target, ?_⟩
          rw [hlength, if_pos rfl]
          exact exceeds_iff.mp (.inr hroom)
      · rintro ⟨channel, hlonger⟩
        rw [hlength] at hlonger
        by_cases htarget : target = channel
        · rw [← htarget, if_pos rfl] at hlonger
          exact (exceeds_iff.mpr hlonger).imp_left fun hpast => ⟨target, hpast⟩
        · rw [if_neg htarget] at hlonger
          exact .inl ⟨channel, hlonger⟩

/-! ## What a capture says about its writes -/

/-- A capture of what was written to each channel. -/
structure Holds (capture : Capture) (limit : Nat) (written : Channel → List UInt8) : Prop where
  limit_eq : capture.limit = limit
  kept : ∀ channel, (capture.kept channel).toList = (written channel).take limit
  text : ∀ channel, capture.text channel = Utf8.decode ((written channel).take limit)
  truncated : capture.truncated = true ↔ ∃ channel, limit < (written channel).length

theorem holds_writeAll_withLimit (limit : Nat) (writes : List (Channel × ByteArray)) :
    (Fixture.writeAll (withLimit limit) writes).Holds limit
      (fun channel => writtenTo channel writes) where
  limit_eq := limit_writeAll _ _
  kept channel := toList_kept_writeAll_withLimit limit channel writes
  text channel := by rw [text_eq_decode, toList_kept_writeAll_withLimit]
  truncated := truncated_writeAll_withLimit limit writes

theorem Holds.unique {first second : Capture} {limit : Nat} {written : Channel → List UInt8}
    (hfirst : first.Holds limit written) (hsecond : second.Holds limit written) :
    first = second := by
  have hkept : ∀ channel, first.kept channel = second.kept channel := by
    intro channel
    apply toList_inj.mp
    rw [hfirst.kept, hsecond.kept]
  have htruncated : first.truncated = second.truncated :=
    Bool.eq_iff_iff.mpr (hfirst.truncated.trans hsecond.truncated.symm)
  have houtput : first.output = second.output := hkept .output
  have hdiagnostics : first.diagnostics = second.diagnostics := hkept .diagnostics
  cases first
  cases second
  cases hfirst.limit_eq
  cases hsecond.limit_eq
  simp_all

/-- Writes of the same bytes to the same channels give the same capture, whatever pieces
the bytes come in and whichever channel comes first. -/
theorem writeAll_withLimit_congr {limit : Nat} {first second : List (Channel × ByteArray)}
    (hsame : ∀ channel, writtenTo channel first = writtenTo channel second) :
    Fixture.writeAll (withLimit limit) first = Fixture.writeAll (withLimit limit) second := by
  have hfirst := holds_writeAll_withLimit limit first
  rw [funext hsame] at hfirst
  exact hfirst.unique (holds_writeAll_withLimit limit second)

/-- Nothing is added to a channel that is full. -/
theorem kept_writeAll_of_full {capture : Capture} (hfits : capture.Fits) {channel : Channel}
    (hfull : capture.limit ≤ (capture.kept channel).size) (writes : List (Channel × ByteArray)) :
    (Fixture.writeAll capture writes).kept channel = capture.kept channel := by
  have hlength : (capture.kept channel).toList.length = capture.limit :=
    Nat.le_antisymm (hfits channel) (by rwa [length_toList])
  apply toList_inj.mp
  rw [toList_kept_writeAll hfits, ← hlength, List.take_left]

theorem fits_writeAll {capture : Capture} (hfits : capture.Fits)
    (writes : List (Channel × ByteArray)) : (Fixture.writeAll capture writes).Fits := by
  intro channel
  rw [toList_kept_writeAll hfits, limit_writeAll]
  exact List.length_take_le _ _

/-- **Capturing.**  A capture holds the beginning of what was written to each channel, and
knows whether that is all.  A channel that is full takes no more.  Other writes of the same
bytes would have given the same capture. -/
theorem holds_writeAll (limit : Nat) (writes : List (Channel × ByteArray)) :
    let capture := Fixture.writeAll (withLimit limit) writes
    capture.Holds limit (fun channel => writtenTo channel writes) ∧
      (∀ channel more, limit ≤ (capture.kept channel).size →
        (Fixture.writeAll capture more).kept channel = capture.kept channel) ∧
      ∀ others, (∀ channel, writtenTo channel others = writtenTo channel writes) →
        Fixture.writeAll (withLimit limit) others = capture := by
  intro capture
  have hholds : capture.Holds limit (fun channel => writtenTo channel writes) :=
    holds_writeAll_withLimit limit writes
  have hfits : capture.Fits := fits_writeAll (fits_withLimit limit) writes
  refine ⟨hholds, ?_, ?_⟩
  · intro channel more hfull
    rw [← hholds.limit_eq] at hfull
    exact kept_writeAll_of_full hfits hfull more
  · intro others hsame
    exact writeAll_withLimit_congr hsame

/-- A character whose bytes come in two writes, and one more than there is room for. -/
theorem holds_writeAll_split :
    let writes : List (Channel × ByteArray) :=
      [(.diagnostics, ⟨#[0xC3]⟩), (.output, ⟨#[0x61]⟩), (.diagnostics, ⟨#[0xA9, 0x21]⟩)]
    let capture := Fixture.writeAll (withLimit 2) writes
    capture.text .diagnostics = "é" ∧ capture.truncated = true ∧
      (capture.write .diagnostics ⟨#[0x3F]⟩).kept .diagnostics = capture.kept .diagnostics ∧
      capture = Fixture.writeAll (withLimit 2) [(.output, ⟨#[0x61]⟩),
        (.diagnostics, ⟨#[0xC3, 0xA9, 0x21]⟩)] := by
  intro writes capture
  obtain ⟨hholds, hfull, hsame⟩ := holds_writeAll 2 writes
  refine ⟨?_, ?_, ?_, ?_⟩
  · rw [hholds.text]
    decide +kernel
  · exact hholds.truncated.mpr ⟨.diagnostics, by decide +kernel⟩
  · exact hfull .diagnostics [(.diagnostics, ⟨#[0x3F]⟩)] (by decide +kernel)
  · refine (hsame _ ?_).symm
    intro channel
    cases channel <;> decide +kernel

end Capture

end EpsBridge
