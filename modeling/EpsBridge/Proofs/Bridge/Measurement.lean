import EpsBridge.Bridge.Convert
import EpsBridge.Host
import EpsBridge.Proofs.Engine.Capture
import EpsBridge.Proofs.Engine.Course
import EpsBridge.Proofs.BoundingBox.Search
import EpsBridge.Proofs.Text.Lines

/-!
# Measured boxes

A measurement reads its box off what was captured of the diagnostics, and that is the
beginning of what the engine wrote.  Lines that were captured as they were written are
no trouble.  The last one may have been cut by the limit, though, and what is left of
it may still read as a box: `CutsBoxLine`.

`readInFull_boundingBox_iff` says that this is the only trouble.  In all other runs
the box is that of the first box line of everything that was written.
-/

namespace EpsBridge

open Program Utf8

variable {ε σ : Type}

/-! ## Box lines -/

/-- The box that a line of bytes gives, if it is a box line. -/
def lineBox? (line : List UInt8) : Option BoundingBox :=
  BoundingBox.ofLine? (decode line).toList

theorem ofOutput?_decode (bytes : List UInt8) :
    BoundingBox.ofOutput? (decode bytes) = (bytes.splitOn lineFeed).findSome? lineBox? := by
  rw [BoundingBox.ofOutput?_eq_findSome?, ← lines_eq_splitOn, lines_decode, List.findSome?_map]
  rfl

/-- A box is that of the first box line of a stream, and the line was kept as it was
written. -/
def ReadInFull (stream : List UInt8) (limit : Nat) (box : BoundingBox) : Prop :=
  ∃ earlier line later,
    stream.splitOn lineFeed = earlier ++ line :: later ∧
      earlier ++ [line] <+: (stream.take limit).splitOn lineFeed ∧
      (∀ other ∈ earlier, lineBox? other = none) ∧
      lineBox? line = some box

/-- The limit cuts a line of a stream, and what it leaves of the line reads as a box,
the first one there is. -/
def CutsBoxLine (stream : List UInt8) (limit : Nat) : Prop :=
  ∃ complete tail more later,
    (stream.take limit).splitOn lineFeed = complete ++ [tail] ∧
      (stream.drop limit).splitOn lineFeed = more :: later ∧
      more ≠ [] ∧
      (∀ line ∈ complete, lineBox? line = none) ∧
      (lineBox? tail).isSome

/-- A box that was read in full is the one that everything written gives. -/
theorem ofOutput?_of_readInFull {stream : List UInt8} {limit : Nat} {box : BoundingBox}
    (hfull : ReadInFull stream limit box) : BoundingBox.ofOutput? (decode stream) = some box := by
  obtain ⟨earlier, line, later, hlines, -, hearlier, hline⟩ := hfull
  rw [ofOutput?_decode, hlines, List.findSome?_append,
    List.findSome?_eq_none_iff.mpr hearlier, List.findSome?_cons, hline]
  rfl

/-- A box that what was kept gives was read in full unless the limit cuts its line. -/
theorem readInFull_iff {stream : List UInt8} {limit : Nat} {box : BoundingBox}
    (hbox : ((stream.take limit).splitOn lineFeed).findSome? lineBox? = some box) :
    ReadInFull stream limit box ↔ ¬ CutsBoxLine stream limit := by
  obtain ⟨complete, tail, more, later, hkept, hrest, hall⟩ :=
    exists_splitOn_append (stream.take limit) (stream.drop limit)
  rw [List.take_append_drop] at hall
  rw [hkept, List.findSome?_append] at hbox
  cases hfound : complete.findSome? lineBox? with
  | some found =>
      -- a line that is complete gives the box, whatever the limit does further on
      rw [hfound] at hbox
      cases hbox
      obtain ⟨earlier, line, others, hcomplete, hline, hearlier⟩ :=
        List.findSome?_eq_some_iff.mp hfound
      constructor
      · rintro - ⟨complete', tail', more', later', hkept', -, -, hnone, -⟩
        rw [hkept] at hkept'
        obtain ⟨rfl, -⟩ := List.append_inj' hkept' rfl
        rw [List.findSome?_eq_none_iff.mpr hnone] at hfound
        cases hfound
      · intro _
        refine ⟨earlier, line, others ++ (tail ++ more) :: later, ?_, ?_, hearlier, hline⟩
        · rw [hall, hcomplete, List.append_assoc, List.cons_append]
        · rw [hkept, hcomplete]
          exact ⟨others ++ [tail], by simp⟩
  | none =>
      have hnone := List.findSome?_eq_none_iff.mp hfound
      rw [hfound] at hbox
      have htail : lineBox? tail = some box := by simpa using hbox
      by_cases hmore : more = []
      · -- the limit is at the end of the line, which is all there
        constructor
        · rintro - ⟨_, _, more', later', -, hrest', hmore', -⟩
          rw [hrest] at hrest'
          cases hrest'
          exact hmore' hmore
        · intro _
          refine ⟨complete, tail, later, ?_, ?_, hnone, htail⟩
          · rw [hall, hmore, List.append_nil]
          · exact ⟨[], (List.append_nil _).trans hkept.symm⟩
      · constructor
        · rintro ⟨earlier, line, others, hlines, hprefix, -, hline⟩ -
          rw [hkept] at hprefix
          rcases List.prefix_concat_iff.mp hprefix with hwhole | hcomplete
          · obtain ⟨rfl, hsame⟩ := List.append_inj' hwhole rfl
            cases hsame
            rw [hall] at hlines
            have hlonger := (List.cons.inj (List.append_cancel_left hlines)).1
            exact hmore (List.append_right_eq_self.mp hlonger)
          · have hmem : line ∈ complete := hcomplete.subset (by simp)
            rw [hnone line hmem] at hline
            cases hline
        · intro hwhole
          exact absurd ⟨complete, tail, more, later, hkept, hrest, hmore, hnone,
            by rw [htail]; rfl⟩ hwhole

/-! ## Measurements -/

/-- An exchange in which an engine writes: some while starting, and some while
stopping. -/
def Program.Exchange.Writes (first second : List (Channel × ByteArray)) : Exchange ε → Prop
  | ⟨.start _ _ _ capture, answer⟩ => answer.2 = Fixture.writeAll capture first
  | ⟨.stop _ _ capture, answer⟩ => answer.2 = Fixture.writeAll capture second
  | _ => True

theorem trace_boundingBox (handler : Handler ε σ) (bridge : Bridge ε) (input : String)
    (state : σ) : (bridge.boundingBox input).trace handler state =
      (invoke bridge.engine (Request.arguments ⟨input, "", .measure⟩)).trace handler state := by
  simp [Bridge.boundingBox, Bridge.run]

theorem run_boundingBox (handler : Handler ε σ) (bridge : Bridge ε) (input : String)
    (state : σ) : ((bridge.boundingBox input).run handler state).1 =
      ((invoke bridge.engine (Request.arguments ⟨input, "", .measure⟩)).run handler state).1.bind
        (Bridge.measuredBox input) := by
  simp [Bridge.boundingBox, Bridge.run]

/-- A box comes from a run that succeeded, and from what was captured in it. -/
theorem ofOutput?_of_boundingBox_eq_ok {handler : Handler ε σ} {bridge : Bridge ε}
    {input : String} {state : σ} {first second : List (Channel × ByteArray)}
    (hwrites : ∀ exchange ∈ (bridge.boundingBox input).trace handler state,
      exchange.Writes first second) {box : BoundingBox}
    (hbox : ((bridge.boundingBox input).run handler state).1 = .ok box) :
    BoundingBox.ofOutput? (decode ((writtenTo .diagnostics (first ++ second)).take
      Capture.defaultLimit)) = some box := by
  rw [trace_boundingBox] at hwrites
  rw [run_boundingBox] at hbox
  cases hargv : (Request.arguments ⟨input, "", .measure⟩).argv with
  | error error =>
      rw [(invoke_of_argv_eq_error handler bridge.engine hargv state).2] at hbox
      cases hbox
  | ok argv =>
      obtain ⟨calls, ended, htrace, hcourse, -⟩ :=
        course_invoke handler bridge.engine hargv state
      rw [htrace] at hwrites
      cases houtcome : ((invoke bridge.engine (Request.arguments ⟨input, "", .measure⟩)).run
          handler state).1 with
      | error error =>
          rw [houtcome] at hbox
          cases hbox
      | panic message =>
          rw [houtcome] at hbox
          cases hbox
      | ok capture =>
          rw [houtcome] at hbox hcourse
          obtain ⟨handle, status, exit, early, hstart, hstop⟩ := exchanges_of_course_ok hcourse
          have hearly : early = Fixture.writeAll .empty first :=
            hwrites _ (mem_underLock hstart)
          have hlate : capture = Fixture.writeAll early second :=
            hwrites _ (mem_underLock hstop)
          rw [← Capture.toList_kept_run, ← hearly, ← hlate, ← Capture.text_eq_decode]
          change Bridge.measuredBox input capture = .ok box at hbox
          unfold Bridge.measuredBox at hbox
          split at hbox
          · cases hbox
            assumption
          · cases hbox

/-- **Measurement.**  The box of a measurement is that of the first box line that the
engine wrote, read in full, if and only if the limit of the capture does not cut such a
line. -/
theorem readInFull_boundingBox_iff (handler : Handler ε σ) (bridge : Bridge ε) (input : String)
    (state : σ) (first second : List (Channel × ByteArray))
    (hwrites : ∀ exchange ∈ (bridge.boundingBox input).trace handler state,
      exchange.Writes first second) (box : BoundingBox)
    (hbox : ((bridge.boundingBox input).run handler state).1 = .ok box) :
    ReadInFull (writtenTo .diagnostics (first ++ second)) Capture.defaultLimit box ↔
      ¬ CutsBoxLine (writtenTo .diagnostics (first ++ second)) Capture.defaultLimit := by
  have hread := ofOutput?_of_boundingBox_eq_ok hwrites hbox
  rw [ofOutput?_decode] at hread
  exact readInFull_iff hread

/-! ## Scripted measurements -/

/-- A bridge over an engine that writes while it starts, and succeeds. -/
def measuring (writes : List (Channel × ByteArray)) : Bridge EngineRef :=
  ⟨.fixture 0 { Fixture.Script.default with startWrites := writes }, .default⟩

/-- What such an engine writes, with the two empty texts of its script in front. -/
def scripted (writes : List (Channel × ByteArray)) : List (Channel × ByteArray) :=
  (.output, "".toUTF8) :: (.diagnostics, "".toUTF8) :: writes

theorem writtenTo_scripted (writes : List (Channel × ByteArray)) :
    writtenTo .diagnostics (scripted writes) = writtenTo .diagnostics writes := by
  simp [scripted, writtenTo_cons]

theorem writes_measuring (writes : List (Channel × ByteArray)) :
    ∀ exchange ∈ ((measuring writes).boundingBox "a.eps").trace (Host.handle Host.firstThread)
      (.start default [] .default), exchange.Writes (scripted writes) [] := by
  have htrace : ((measuring writes).boundingBox "a.eps").trace (Host.handle Host.firstThread)
      (.start default [] .default) =
        let engine := (measuring writes).engine
        let capture := Fixture.writeAll .empty (scripted writes)
        underLock [⟨.create engine, .ok 1⟩,
          ⟨.start engine 1 (programName :: Request.managed .bbox ++ ["a.eps"]) .empty,
            (.ok 0, capture)⟩,
          ⟨.stop engine 1 capture, (.ok 0, Fixture.writeAll capture [])⟩,
          ⟨.discard engine 1 false, .ok ()⟩] := by rfl
  rw [htrace]
  simp [underLock, Program.Exchange.Writes]

/-- The box of such a measurement is that of the beginning of the diagnostics. -/
theorem boundingBox_measuring {writes : List (Channel × ByteArray)} {box : BoundingBox}
    (hbox : BoundingBox.ofOutput? (decode ((writtenTo .diagnostics writes).take
      Capture.defaultLimit)) = some box) :
    (((measuring writes).boundingBox "a.eps").run (Host.handle Host.firstThread)
      (.start default [] .default)).1 = .ok box := by
  have hrun : (((measuring writes).boundingBox "a.eps").run (Host.handle Host.firstThread)
      (.start default [] .default)).1 =
        Bridge.measuredBox "a.eps" (Fixture.writeAll .empty (scripted writes)) := by rfl
  rw [hrun, Bridge.measuredBox, Capture.text_eq_decode, Capture.empty,
    Capture.toList_kept_writeAll_withLimit, writtenTo_scripted, hbox]

/-- A box line in two pieces is read in full. -/
theorem readInFull_boundingBox_iff_pieces :
    let writes := [(Channel.diagnostics, "%%BoundingBox: 0 0 ".toUTF8),
      (.diagnostics, "10 100\n".toUTF8)]
    (∀ exchange ∈ ((measuring writes).boundingBox "a.eps").trace (Host.handle Host.firstThread)
      (.start default [] .default), exchange.Writes (scripted writes) []) ∧
      (((measuring writes).boundingBox "a.eps").run (Host.handle Host.firstThread)
        (.start default [] .default)).1 = .ok ⟨0, 0, 10, 100⟩ ∧
      (ReadInFull (writtenTo .diagnostics (scripted writes ++ [])) Capture.defaultLimit
          ⟨0, 0, 10, 100⟩ ↔
        ¬ CutsBoxLine (writtenTo .diagnostics (scripted writes ++ [])) Capture.defaultLimit) := by
  intro writes
  have hwrites := writes_measuring writes
  have hbox := boundingBox_measuring
    (show BoundingBox.ofOutput? (decode ((writtenTo .diagnostics writes).take
      Capture.defaultLimit)) = some ⟨0, 0, 10, 100⟩ by decide +kernel)
  exact ⟨hwrites, hbox, readInFull_boundingBox_iff _ _ _ _ _ _ hwrites _ hbox⟩

/-! ## A line that is cut -/

/-- Lines with nothing in them, and behind them a box line. -/
def padded (count : Nat) : List (Channel × ByteArray) :=
  [(.diagnostics, (List.replicate count lineFeed).toByteArray),
    (.diagnostics, "%%BoundingBox: 0 0 10 100\n".toUTF8)]

theorem writtenTo_padded (count : Nat) :
    writtenTo .diagnostics (padded count) =
      List.replicate count lineFeed ++ encode "%%BoundingBox: 0 0 10 100\n" := by
  rw [padded, writtenTo_cons, writtenTo_cons, writtenTo_nil, List.append_nil, if_pos rfl,
    if_pos rfl, toList_toByteArray, encode]

/-- Empty lines are no box lines. -/
theorem ofOutput?_replicate_append (count : Nat) (rest : List UInt8) :
    BoundingBox.ofOutput? (decode (List.replicate count lineFeed ++ rest)) =
      BoundingBox.ofOutput? (decode rest) := by
  rw [ofOutput?_decode, ofOutput?_decode]
  induction count with
  | zero => rfl
  | succ count ih =>
      have hempty : lineBox? [] = none := by decide +kernel
      rw [List.replicate_succ, List.cons_append, List.splitOn_cons_eq_if_modifyHead,
        if_pos (beq_self_eq_true lineFeed), List.findSome?_cons, hempty]
      exact ih

/-- Where the limit cuts the last two digits off the box line, the box is too small. -/
theorem boundingBox_padded {count : Nat} (hcount : count + 23 = Capture.defaultLimit) :
    (((measuring (padded count)).boundingBox "a.eps").run (Host.handle Host.firstThread)
        (.start default [] .default)).1 = .ok ⟨0, 0, 10, 1⟩ ∧
      BoundingBox.ofOutput? (decode (writtenTo .diagnostics (padded count))) =
        some ⟨0, 0, 10, 100⟩ := by
  constructor
  · apply boundingBox_measuring
    have hlength : (List.replicate count lineFeed).length = count := List.length_replicate
    rw [writtenTo_padded, ← hcount, List.take_append, hlength, Nat.add_sub_cancel_left,
      List.take_of_length_le (by omega), ofOutput?_replicate_append]
    decide +kernel
  · rw [writtenTo_padded, ofOutput?_replicate_append]
    decide +kernel

/-- The box of this measurement was not read in full. -/
theorem not_readInFull_padded :
    ∃ box,
      (∀ exchange ∈ ((measuring (padded 8388585)).boundingBox "a.eps").trace
        (Host.handle Host.firstThread) (.start default [] .default),
          exchange.Writes (scripted (padded 8388585)) []) ∧
      (((measuring (padded 8388585)).boundingBox "a.eps").run
        (Host.handle Host.firstThread) (.start default [] .default)).1 = .ok box ∧
      ¬ ReadInFull (writtenTo .diagnostics (scripted (padded 8388585) ++ []))
        Capture.defaultLimit box := by
  obtain ⟨hrun, hall⟩ := boundingBox_padded (show 8388585 + 23 = Capture.defaultLimit by rfl)
  refine ⟨_, writes_measuring _, hrun, fun hfull => ?_⟩
  rw [List.append_nil, writtenTo_scripted] at hfull
  rw [ofOutput?_of_readInFull hfull] at hall
  exact absurd hall (by decide)

end EpsBridge
