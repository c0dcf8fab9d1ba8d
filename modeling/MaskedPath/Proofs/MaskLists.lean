import MaskedPath.Proofs.Session
import MaskedPath.Proofs.Utf8
import Mathlib.Data.List.Forall2

namespace MaskedPath

namespace MaskList

def warnings (events : List Event) : List Event := events.filter (·.level = .warning)

/-- What the list at a path adds to the masks, and the warnings of reading it. -/
inductive Adds (a : Access) (p : Path) : List Library → List Event → Prop
  | listed {text : Text} (there : a.isFile p = .ok true)
      (content : a.read p = .ok (Utf8.encode text)) : Adds a p (parse (lines (wide text))) []
  | absent (absent : a.isFile p = .ok false) : Adds a p [] []
  | unchecked {e : PathError} (failed : a.isFile p = .error e) :
      Adds a p [] [.masksFailed p (.path e)]
  | unread {e : PathError} (there : a.isFile p = .ok true) (failed : a.read p = .error e) :
      Adds a p [] [.masksFailed p (.path e)]
  | undecodable {bytes : Bytes} {e : Utf8.Error} (there : a.isFile p = .ok true)
      (content : a.read p = .ok bytes) (notUtf8 : ∀ text, Utf8.encode text ≠ bytes)
      (reported : Utf8.decode bytes = .error e) :
      Adds a p [] [.masksFailed p (.decoding (.notUtf8 e))]

variable {a a' : Access} {p : Path} {masks : List Library} {warned : List Event}

theorem level_of_event? {line : Line} {event : Event} (given : line.event? = some event) :
    event.level = .debug := by
  cases line with
  | skipped => cases given
  | ignored entry =>
      obtain rfl := Option.some.inj given
      rfl
  | mask library => cases given

theorem warnings_loaded (lines : List WideText) (count : Nat) :
    warnings (events lines ++ [.masksLoaded count p]) = [] := by
  refine List.filter_eq_nil_iff.mpr fun event member => ?_
  have debug : event.level = .debug := by
    rcases List.mem_append.mp member with ignored | loaded
    · obtain ⟨line, -, given⟩ := List.mem_filterMap.mp ignored
      exact level_of_event? given
    · rw [List.mem_singleton.mp loaded]
      rfl
  simp [debug]

/-- What a place adds hangs on what is answered about that place alone. -/
theorem Adds.readSource_eq (adds : Adds a p masks warned) (sameFile : a'.isFile p = a.isFile p)
    (sameContent : a'.read p = a.read p) :
    (readSource a' p).1 = masks ∧ warnings (readSource a' p).2 = warned := by
  unfold readSource
  cases adds with
  | @listed text there content =>
      have decoded := Utf8.decode_eq_ok_iff.mpr (rfl : Utf8.encode text = _)
      have read : readLines? a' p = .ok (some (lines (wide text))) := by
        simp [readLines?, sameFile, sameContent, there, content, orFail, decodeText, decoded,
          Except.mapError, Except.map]
      rw [read]
      exact ⟨rfl, warnings_loaded ..⟩
  | absent absent =>
      have read : readLines? a' p = .ok none := by
        simp [readLines?, sameFile, absent, orFail, Except.mapError]
      rw [read]
      exact ⟨rfl, rfl⟩
  | @unchecked e failed =>
      have read : readLines? a' p = .error (.path e) := by
        simp [readLines?, sameFile, failed, orFail, Except.mapError]
      rw [read]
      exact ⟨rfl, rfl⟩
  | @unread e there failed =>
      have read : readLines? a' p = .error (.path e) := by
        simp [readLines?, sameFile, sameContent, there, failed, orFail, Except.mapError]
      rw [read]
      exact ⟨rfl, rfl⟩
  | @undecodable bytes e there content notUtf8 reported =>
      have read : readLines? a' p = .error (.decoding (.notUtf8 e)) := by
        simp [readLines?, sameFile, sameContent, there, content, orFail, decodeText, reported,
          Except.mapError, Except.map]
      rw [read]
      exact ⟨rfl, rfl⟩

theorem exists_adds (a : Access) (p : Path) : ∃ masks warned, Adds a p masks warned := by
  cases check : a.isFile p with
  | error e => exact ⟨_, _, .unchecked check⟩
  | ok there =>
      cases there with
      | false => exact ⟨_, _, .absent check⟩
      | true =>
          cases content : a.read p with
          | error e => exact ⟨_, _, .unread check content⟩
          | ok bytes =>
              cases decoded : Utf8.decode bytes with
              | ok text =>
                  have encoded := Utf8.decode_eq_ok_iff.mp decoded
                  exact ⟨_, _, .listed check (encoded ▸ content)⟩
              | error e =>
                  refine ⟨_, _, .undecodable check content (fun text encoded => ?_) decoded⟩
                  rw [Utf8.decode_eq_ok_iff.mpr encoded] at decoded
                  cases decoded

theorem adds_readSource (a : Access) (p : Path) :
    Adds a p (readSource a p).1 (warnings (readSource a p).2) := by
  obtain ⟨masks, warned, adds⟩ := exists_adds a p
  obtain ⟨masks_eq, warned_eq⟩ := adds.readSource_eq rfl rfl
  rw [masks_eq, warned_eq]
  exact adds

theorem sources_eq (resource : Text) :
    sources resource =
      (if resource.head? = some '/' then [] else [bundle.join resource]) ++ [.parse resource] := by
  unfold sources
  split <;> rfl

end MaskList

open MaskedPath.Action in
theorem Masking.loadLibraries_ok (fs : FileSystem) (id : Nat) (resource : Text) (s : Store) :
    ((loadLibraries fs id resource).run s).1 = .ok () := by
  have emitted := (yields_emitAll (MaskList.read fs resource).2 s).1
  unfold loadLibraries
  dsimp only
  rw [run_bind_ok emitted]
  unfold addLibraries
  by_cases nothing : Registry.maskable ((MaskList.read fs resource).1.map some) = []
  · simp only [nothing, if_true]
    rfl
  · simp only [nothing, if_false]
    rfl

namespace MaskList

/-- A list is what its places add, the bundled one first unless its name is absolute, then the path that
it names. What a place adds hangs on the answers about that place alone, and no answer makes reading or
loading the list fail. -/
theorem list_adds_its_places (a : Access) (resource : Text) :
    (∃ parts : List (List Library × List Event),
      List.Forall₂ (fun p part => Adds a p part.1 part.2)
          ((if resource.head? = some '/' then [] else [bundle.join resource]) ++ [.parse resource])
          parts ∧
        (readFrom a resource).1 = parts.flatMap (·.1) ∧
        warnings (readFrom a resource).2 = parts.flatMap (·.2)) ∧
      (∀ a' p masks warned, Adds a p masks warned → a'.isFile p = a.isFile p →
        a'.read p = a.read p → (readSource a' p).1 = masks ∧ warnings (readSource a' p).2 = warned) ∧
      ∀ fs id s, ((Masking.loadLibraries fs id resource).run s).1 = .ok () := by
  refine ⟨⟨(sources resource).map fun p => ((readSource a p).1, warnings (readSource a p).2),
    ?_, ?_, ?_⟩, fun a' p masks warned adds => adds.readSource_eq, fun fs id s =>
      Masking.loadLibraries_ok fs id resource s⟩
  · rw [← sources_eq, List.forall₂_map_right_iff]
    exact List.forall₂_same.mpr fun p _ => adds_readSource a p
  · simp only [readFrom, List.flatMap_map]
  · simp only [readFrom, warnings, List.filter_flatMap, List.flatMap_map]

/-! ## A bundled list that cannot be read -/

namespace Unread

def resource : Text := "m.list".toList

def text : Text := "# one library\n g : a \n\n:\n".toList

def cause : PathError := .system .isDirectory (bundle.join resource).render

def access : Access where
  isFile _ := .ok true
  read p := if p = bundle.join resource then .error cause else .ok (Utf8.encode text)

def library : Library := ⟨some (wide ['g']), wide ['a']⟩

theorem adds_bundled :
    Adds access (bundle.join resource) [] [.masksFailed (bundle.join resource) (.path cause)] := by
  refine .unread rfl ?_
  simp [access]

theorem adds_named : Adds access (.parse resource) [library] [] := by
  have parsed : parse (lines (wide text)) = [library] := by decide
  have other : Path.parse resource ≠ bundle.join resource := by decide
  rw [← parsed]
  refine .listed rfl ?_
  simp [access, other]

end Unread

theorem list_adds_its_places_unread :
    (readFrom Unread.access Unread.resource).1 = [Unread.library] ∧
      warnings (readFrom Unread.access Unread.resource).2 =
        [.masksFailed (bundle.join Unread.resource) (.path Unread.cause)] := by
  obtain ⟨⟨parts, added, masks, warned⟩, alone, -⟩ :=
    list_adds_its_places Unread.access Unread.resource
  change List.Forall₂ _ [bundle.join Unread.resource, .parse Unread.resource] parts at added
  obtain ⟨first, _, bundled, others, rfl⟩ := List.forall₂_cons_left_iff.mp added
  obtain ⟨second, _, named, nothing, rfl⟩ := List.forall₂_cons_left_iff.mp others
  obtain rfl := List.forall₂_nil_left_iff.mp nothing
  have first_eq := alone _ _ _ _ bundled rfl rfl
  have second_eq := alone _ _ _ _ named rfl rfl
  obtain ⟨noMasks, oneWarning⟩ := Unread.adds_bundled.readSource_eq rfl rfl
  obtain ⟨oneMask, noWarnings⟩ := Unread.adds_named.readSource_eq rfl rfl
  rw [masks, warned]
  simp [← first_eq.1, ← first_eq.2, ← second_eq.1, ← second_eq.2, noMasks, oneWarning, oneMask,
    noWarnings]

end MaskList

end MaskedPath
