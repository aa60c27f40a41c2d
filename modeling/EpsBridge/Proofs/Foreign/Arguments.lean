import EpsBridge.Host
import EpsBridge.Proofs.Foreign.Answer
import EpsBridge.Proofs.Text.Utf8
import Mathlib.Tactic.ByContra

/-!
# Bad arguments

A foreign call looks at its arguments before it does anything else.  If one of them is bad
(`Argument.IsBad`), the call leaves the number of a bad argument and gives its fallback
(`Call.refusal`): it takes no lock, looks at no slot, and asks for no library and no engine.
It does so in no other case (`program_eq_refusal_iff`).

Every check of several arguments is made of checks of one, each of which finds fault exactly
where its argument is bad (`Checks`).

A run with a zero character in an argument is refused in the same way, by the bridge itself.
-/

namespace EpsBridge

open Program Program.Exchange

variable {ε α β : Type}

namespace Foreign

/-! ## Bad arguments -/

/-- An argument of a call that can be bad. -/
inductive Argument where
  /-- A text that there has to be. -/
  | text (text : Text)
  /-- The path of a library, or no pointer where one is searched for. -/
  | path (path : Text)
  | dpi (dpi : Int32)
  | array (array : TextArray)
  /-- Where a box is written to. -/
  | buffer (buffer : Option (List Int32))

/-- Bytes that are the UTF-8 of no text. -/
def IsGarbled (bytes : List UInt8) : Prop := ∀ text, Utf8.encode text ≠ bytes

/-- What is wrong with an argument. -/
inductive Argument.IsBad : Argument → Prop
  | null : IsBad (.text none)
  | garbled {bytes : List UInt8} (hbytes : IsGarbled bytes) : IsBad (.text (some bytes))
  | garbledPath {bytes : List UInt8} (hbytes : IsGarbled bytes) : IsBad (.path (some bytes))
  | notPositive {dpi : Int32} (hdpi : dpi ≤ 0) : IsBad (.dpi dpi)
  | nullArray {count : Nat} (hcount : 0 < count) : IsBad (.array (.null count))
  | item {texts : List Text} {text : Text} (htext : text ∈ texts) (hbad : IsBad (.text text)) :
      IsBad (.array (.items texts))
  | nullBuffer : IsBad (.buffer none)

namespace Call

/-- The arguments of a call that can be bad, in the order in which they are looked at. -/
def arguments : Call ε → List Argument
  | init path => [.path path]
  | renderPng input output dpi | renderJpeg input output dpi _ =>
    [.text input, .text output, .dpi dpi]
  | convertPdf input output => [.text input, .text output]
  | execute array => [.array array]
  | boundingBox input buffer => [.text input, .buffer buffer]
  | install _ | isAvailable | lastError | version | freeText _ => []

/-- A call with a bad argument. -/
def IsBad (call : Call ε) : Prop := ∃ argument ∈ call.arguments, argument.IsBad

/-- What a call gives back that fails.  The caller's buffer is as it was. -/
def fallback : Call ε → Value
  | init _ | isAvailable | renderPng _ _ _ | renderJpeg _ _ _ _ | convertPdf _ _ | execute _ =>
    .truth false
  | version => .text none
  | boundingBox _ buffer => .box false buffer
  | install _ | lastError | freeText _ => .nothing

/-- Leaves the number of a bad argument, and gives the fallback. -/
def refusal (call : Call ε) : Program ε Value :=
  .act (.writeLastError 5) fun _ => .done call.fallback

end Call

/-! ## Checks -/

/-- A check that finds fault exactly where something is bad. -/
structure Checks (bad : Prop) (checked : Except Error α) : Prop where
  refused : bad → ∃ error, checked = .error error ∧ error.kind.number = 5
  accepted : ¬ bad → ∃ value, checked = .ok value

namespace Checks

variable {bad worse : Prop} {checked : Except Error α}

theorem congr (hchecks : Checks bad checked) (hiff : bad ↔ worse) : Checks worse checked :=
  ⟨fun hworse => hchecks.refused (hiff.mpr hworse),
    fun hworse => hchecks.accepted (mt hiff.mp hworse)⟩

theorem pure (value : α) : Checks False (.ok value : Except Error α) :=
  ⟨False.elim, fun _ => ⟨value, rfl⟩⟩

/-- Checks that are made one after another find what each of them finds. -/
theorem bind {next : α → Except Error β} (hchecks : Checks bad checked)
    (hnext : ∀ value, Checks worse (next value)) : Checks (bad ∨ worse) (checked >>= next) := by
  by_cases hbad : bad
  · obtain ⟨error, rfl, hnumber⟩ := hchecks.refused hbad
    exact ⟨fun _ => ⟨error, rfl, hnumber⟩, fun hgood => absurd (.inl hbad) hgood⟩
  · obtain ⟨value, rfl⟩ := hchecks.accepted hbad
    exact (hnext value).congr (or_iff_right hbad).symm

end Checks

theorem checks_textArgument (index : Nat) (text : Text) :
    Checks (Argument.IsBad (.text text)) (textArgument index text) := by
  cases text with
  | none => exact ⟨fun _ => ⟨_, rfl, rfl⟩, fun hgood => absurd .null hgood⟩
  | some bytes =>
      unfold textArgument
      dsimp only
      cases hdecode : Utf8.decodeExactly? bytes with
      | some text =>
          refine ⟨fun hbad => ?_, fun _ => ⟨text, rfl⟩⟩
          cases hbad with
          | garbled hbytes =>
              exact absurd (Utf8.decodeExactly?_eq_some_iff.mp hdecode) (hbytes text)
      | none =>
          refine ⟨fun _ => ⟨_, rfl, rfl⟩, fun hgood => absurd (.garbled ?_) hgood⟩
          intro text htext
          rw [Utf8.decodeExactly?_eq_some_iff.mpr htext] at hdecode
          cases hdecode

example : textArgument 1 (some [0x61, 0xE2, 0x82]) = .error (.invalidArgument 1
    "not valid UTF-8: incomplete utf-8 byte sequence from index 1") := by
  rfl

example : textArgument 0 (some [0x61, 0xE2, 0x82, 0x28]) = .error (.invalidArgument 0
    "not valid UTF-8: invalid utf-8 sequence of 2 bytes from index 1") := by
  rfl

theorem checks_dpiArgument (index : Nat) (dpi : Int32) :
    Checks (Argument.IsBad (.dpi dpi)) (dpiArgument index dpi) := by
  unfold dpiArgument
  by_cases hdpi : 0 < dpi
  · rw [if_pos hdpi]
    refine ⟨fun hbad => ?_, fun _ => ⟨_, rfl⟩⟩
    cases hbad with
    | notPositive hnot => exact absurd hdpi (Int32.not_lt.mpr hnot)
  · rw [if_neg hdpi]
    exact ⟨fun _ => ⟨_, rfl, rfl⟩, fun hgood => absurd (.notPositive (Int32.not_lt.mp hdpi)) hgood⟩

/-- The texts of an array are checked one after another. -/
theorem checks_items (texts : List Text) (first : Nat) :
    Checks (∃ text ∈ texts, Argument.IsBad (.text text))
      ((texts.zipIdx first).mapM fun (text, index) => textArgument index text) := by
  induction texts generalizing first with
  | nil => exact (Checks.pure []).congr (by simp)
  | cons text rest ih =>
      rw [List.zipIdx_cons, List.mapM_cons]
      refine ((checks_textArgument first text).bind fun value =>
        (ih (first + 1)).bind fun values => .pure (value :: values)).congr ?_
      simp only [or_false, List.mem_cons, exists_eq_or_imp]

theorem checks_arrayArgument (array : TextArray) :
    Checks (Argument.IsBad (.array array)) (arrayArgument array) := by
  rcases array with texts | count | count
  · refine (checks_items texts 0).congr ⟨?_, ?_⟩
    · rintro ⟨text, htext, hbad⟩
      exact .item htext hbad
    · rintro (_ | _ | _ | _ | _ | ⟨htext, hbad⟩)
      exact ⟨_, htext, hbad⟩
  · exact (Checks.pure []).congr ⟨False.elim, by rintro (_ | _ | _ | _ | hcount); cases hcount⟩
  · exact ⟨fun _ => ⟨_, rfl, rfl⟩, fun hgood => absurd (.nullArray count.succ_pos) hgood⟩

theorem checks_boxArguments (input : Text) (buffer : Option (List Int32)) :
    Checks (Argument.IsBad (.text input) ∨ Argument.IsBad (.buffer buffer))
      (boxArguments input buffer) := by
  refine (checks_textArgument 0 input).bind fun text => ?_
  cases buffer with
  | none => exact ⟨fun _ => ⟨_, rfl, rfl⟩, fun hgood => absurd .nullBuffer hgood⟩
  | some corners => exact (Checks.pure (text, corners)).congr ⟨False.elim, nofun⟩

/-- The path of a library is checked if there is one. -/
theorem checks_requestedPath (path : Text) :
    Checks (Argument.IsBad (.path path)) (requestedPath path) := by
  cases path with
  | none => exact (Checks.pure none).congr ⟨False.elim, nofun⟩
  | some bytes =>
      refine ((checks_textArgument 0 (some bytes)).bind fun text =>
        .pure (some (Path.ofString text))).congr ?_
      rw [or_false]
      constructor
      · rintro (_ | hbytes)
        exact .garbledPath hbytes
      · rintro (_ | _ | hbytes)
        exact .garbled hbytes

/-! ## Calls -/

/-- The operation of a call checks the arguments of the call. -/
theorem checks_operation {call : Call ε} {operation : Operation ε}
    (hoperation : call.operation? = some operation) : Checks call.IsBad operation.arguments := by
  cases call with
  | install bridge | init path | lastError | freeText text => cases hoperation
  | isAvailable | version =>
      obtain rfl := Option.some.inj hoperation
      exact (Checks.pure ()).congr (by simp [Call.IsBad, Call.arguments])
  | renderPng input output dpi | renderJpeg input output dpi quality =>
      obtain rfl := Option.some.inj hoperation
      refine ((checks_textArgument 0 input).bind fun input =>
        (checks_textArgument 1 output).bind fun output =>
          (checks_dpiArgument 2 dpi).bind fun dpi => .pure (input, output, dpi)).congr ?_
      simp [Call.IsBad, Call.arguments]
  | convertPdf input output =>
      obtain rfl := Option.some.inj hoperation
      refine ((checks_textArgument 0 input).bind fun input =>
        (checks_textArgument 1 output).bind fun output => .pure (input, output)).congr ?_
      simp [Call.IsBad, Call.arguments]
  | execute array =>
      obtain rfl := Option.some.inj hoperation
      exact (checks_arrayArgument array).congr (by simp [Call.IsBad, Call.arguments])
  | boundingBox input buffer =>
      obtain rfl := Option.some.inj hoperation
      exact (checks_boxArguments input buffer).congr (by simp [Call.IsBad, Call.arguments])

theorem fallback_operation {call : Call ε} {operation : Operation ε}
    (hoperation : call.operation? = some operation) : operation.fallback = call.fallback := by
  cases call with
  | install bridge | init path | lastError | freeText text => cases hoperation
  | _ => cases hoperation; rfl

/-- A call whose arguments are good takes the lock of the slot first. -/
theorem program_ne_refusal_of_operation? {call : Call ε} {operation : Operation ε}
    (hoperation : call.operation? = some operation) {arguments : operation.Argument}
    (harguments : operation.arguments = .ok arguments) : call.program ≠ call.refusal := by
  obtain ⟨γ, give, success, fallback, hprogram, -, -⟩ := program_eq_guarded hoperation
  rw [hprogram, harguments]
  intro hsame
  cases (Program.act.inj hsame).1

theorem program_eq_refusal_of_operation? {call : Call ε} {operation : Operation ε} {error : Error}
    (hoperation : call.operation? = some operation)
    (harguments : operation.arguments = .error error)
    (hnumber : error.kind.number = 5) : call.program = call.refusal := by
  obtain ⟨γ, give, success, fallback, hprogram, -, hfallback⟩ := program_eq_guarded hoperation
  rw [hprogram, harguments, Call.refusal, ← hnumber, ← fallback_operation hoperation, hfallback]
  rfl

theorem program_init (path : Text) :
    (Call.init path : Call ε).program = Value.truth <$> guarded false
      (match requestedPath path with
        | .ok requested => loadInto requested
        | .error error => return .error error) := by
  cases path with
  | none => rfl
  | some bytes =>
      unfold Call.program Foreign.init requestedPath
      dsimp only
      cases textArgument 0 (some bytes) <;> rfl

/-- A call is refused exactly where an argument is bad. -/
theorem program_eq_refusal_iff (call : Call ε) : call.program = call.refusal ↔ call.IsBad := by
  cases hoperation : call.operation? with
  | some operation =>
      have hchecks := checks_operation hoperation
      constructor
      · intro hrefused
        by_contra hgood
        obtain ⟨arguments, harguments⟩ := hchecks.accepted hgood
        exact program_ne_refusal_of_operation? hoperation harguments hrefused
      · intro hbad
        obtain ⟨error, harguments, hnumber⟩ := hchecks.refused hbad
        exact program_eq_refusal_of_operation? hoperation harguments hnumber
  | none =>
      cases call with
      | init path =>
          have hchecks : Checks (Call.init path : Call ε).IsBad (requestedPath path) :=
            (checks_requestedPath path).congr (by simp [Call.IsBad, Call.arguments])
          rw [program_init]
          constructor
          · intro hrefused
            by_contra hgood
            obtain ⟨requested, hpath⟩ := hchecks.accepted hgood
            rw [hpath] at hrefused
            cases (Program.act.inj hrefused).1
          · intro hbad
            obtain ⟨error, hpath, hnumber⟩ := hchecks.refused hbad
            rw [hpath, Call.refusal, ← hnumber]
            rfl
      | install bridge | lastError | freeText text =>
          -- these have no arguments to look at, and begin with something else
          refine iff_of_false (fun hrefused => ?_) (by simp [Call.IsBad, Call.arguments])
          cases hrefused
      | _ => cases hoperation

/-- A box is written to the caller's buffer by no call that returns false. -/
theorem eq_of_ends_boundingBox {input : Text} {buffer after : Option (List Int32)}
    {exchanges : List (Exchange ε)}
    (hends : (Call.boundingBox input buffer : Call ε).program.Ends exchanges (.box false after)) :
    after = buffer := by
  have hanswered := answered_of_ends hends
  generalize hvalue : Value.box false after = value at hanswered
  cases hanswered with
  | operated hoperation hanswered =>
      obtain rfl := Option.some.inj hoperation
      cases hanswered with
      | succeeded harguments htaken hworked => cases hvalue
      | _ => exact (Value.box.inj hvalue).2

end Foreign

/-! ## Zero characters -/

/-- The first text that holds a zero character, and its position. -/
structure FirstNul (texts : List String) (index : Nat) (text : String) : Prop where
  here : texts[index]? = some text
  nul : '\x00' ∈ text.toList
  earlier : ∀ other < index, ∀ text, texts[other]? = some text → '\x00' ∉ text.toList

theorem firstNul_of_firstNul? {arguments : Arguments} {index : Nat} {text : String}
    (hfirst : arguments.firstNul? = some (index, text)) :
    FirstNul arguments.toList index text := by
  obtain ⟨entry, hfound, hentry⟩ := Option.map_eq_some_iff.mp hfirst
  cases hentry
  obtain ⟨hnul, position, hposition, rfl, hearlier⟩ := List.find?_eq_some_iff_getElem.mp hfound
  simp only [List.getElem_zipIdx, Nat.zero_add] at hnul hearlier ⊢
  refine ⟨List.getElem?_eq_getElem _, List.contains_iff_mem.mp hnul, ?_⟩
  intro other hother text htext
  obtain ⟨hlength, rfl⟩ := List.getElem?_eq_some_iff.mp htext
  simpa using hearlier other hother

/-- Arguments with a zero character are refused by the first of them that has one. -/
theorem exists_firstNul {arguments : Arguments}
    (hnul : ∃ text ∈ arguments.toList, '\x00' ∈ text.toList) :
    ∃ index text, FirstNul arguments.toList index text ∧
      arguments.argv = .error (.invalidArgument index (Arguments.nulReason text)) := by
  obtain ⟨text, htext, hzero⟩ := hnul
  cases hfirst : arguments.firstNul? with
  | none =>
      rw [Arguments.firstNul?, Option.map_eq_none_iff, List.find?_eq_none] at hfirst
      obtain ⟨position, hposition⟩ := List.mem_iff_getElem?.mp htext
      have hentry : (text, position) ∈ arguments.toList.zipIdx :=
        List.mem_zipIdx_iff_getElem?.mpr hposition
      exact absurd (List.contains_iff_mem.mpr hzero) (hfirst _ hentry)
  | some found =>
      refine ⟨found.1, found.2, firstNul_of_firstNul? hfirst, ?_⟩
      rw [Arguments.argv, hfirst]

theorem invoke_of_nul (engine : ε) {arguments : Arguments}
    (hnul : ∃ text ∈ arguments.toList, '\x00' ∈ text.toList) :
    ∃ index text, FirstNul arguments.toList index text ∧ invoke engine arguments =
      return .error (.invalidArgument index (Arguments.nulReason text)) := by
  obtain ⟨index, text, hfirst, hargv⟩ := exists_firstNul hnul
  exact ⟨index, text, hfirst, by rw [invoke, hargv]⟩

/-! ## What is refused -/

/-- Arguments that are looked at before anything else is done. -/
structure ChecksFirst (ε : Type) : Prop where
  /-- A call with a bad argument leaves its number and gives its fallback, and does nothing else.
  No other call does this. -/
  refused : ∀ call : Foreign.Call ε, call.program = call.refusal ↔ call.IsBad
  /-- A run with a zero character in an argument does nothing at all. -/
  run : ∀ (bridge : Bridge ε) (request : Request),
    (∃ text ∈ request.arguments.toList, '\x00' ∈ text.toList) →
    ∃ index text, FirstNul request.arguments.toList index text ∧ bridge.run request =
      return .error (.invalidArgument index (Arguments.nulReason text))
  execute : ∀ (bridge : Bridge ε) (arguments : List String),
    (∃ text ∈ arguments, '\x00' ∈ text.toList) →
    ∃ index text, FirstNul arguments index text ∧ bridge.execute arguments =
      return .error (.invalidArgument index (Arguments.nulReason text))
  /-- The caller's buffer is as it was if no box was found, for whatever reason. -/
  buffer : ∀ (input : Foreign.Text) (buffer after : Option (List Int32))
    (exchanges : List (Exchange ε)),
    (Foreign.Call.boundingBox input buffer : Foreign.Call ε).program.Ends exchanges
      (.box false after) → after = buffer

/-- **Bad arguments** reach no library, no slot and no engine: nothing is changed on a host but
the number of the thread that made the call, whatever the host has in its slot and its files. -/
theorem checksFirst :
    (∀ ε, ChecksFirst ε) ∧ ∀ (call : Foreign.Call EngineRef) (thread : Nat) (host : Host),
      call.IsBad →
        call.program.run (Host.handle thread) host = (call.fallback, host.noteError thread 5) := by
  refine ⟨fun ε => ⟨Foreign.program_eq_refusal_iff, ?_, ?_, ?_⟩, ?_⟩
  · intro bridge request hnul
    exact invoke_of_nul bridge.engine hnul
  · intro bridge arguments hnul
    have hcustom : ∃ text ∈ (Request.custom arguments).arguments.toList,
        '\x00' ∈ text.toList := hnul
    exact invoke_of_nul bridge.engine hcustom
  · intro input buffer after exchanges hends
    exact Foreign.eq_of_ends_boundingBox hends
  · intro call thread host hbad
    rw [(Foreign.program_eq_refusal_iff call).mpr hbad]
    rfl

/-- A name that is not UTF-8, on a host without a library, and a zero character behind a good
argument. -/
theorem checksFirst_garbledOutput :
    let call : Foreign.Call EngineRef := .renderPng (some [97]) (some [255]) 72
    let host := Host.start default [] .default
    call.IsBad ∧ call.program.run (Host.handle 0) host = (.truth false, host.noteError 0 5) ∧
      ∃ index text, FirstNul ["a", "b\x00"] index text ∧
        (⟨.library default, .default⟩ : Bridge EngineRef).execute ["a", "b\x00"] =
          return .error (.invalidArgument index (Arguments.nulReason text)) := by
  intro call host
  have hgarbled : Foreign.IsGarbled [255] := by
    intro text htext
    have hnone : Utf8.decodeExactly? [255] = none := by decide +kernel
    cases hnone.symm.trans (Utf8.decodeExactly?_eq_some_iff.mpr htext)
  have hbad : call.IsBad := ⟨_, .tail _ (.head _), .garbled hgarbled⟩
  obtain ⟨hchecks, hhost⟩ := checksFirst
  exact ⟨hbad, hhost call 0 host hbad,
    (hchecks EngineRef).execute _ _ ⟨_, .tail _ (.head _), by decide⟩⟩

end EpsBridge
