import Mathlib
import MaskedPath.Proofs.ModuleNames
import MaskedPath.Proofs.Session
import MaskedPath.Proofs.Shown
import MaskedPath.Standard.Runtime

/-!
# Spellings that slip past a name mask

A masking resolver compares its name masks with a request as it is spelled, while the search below
it drops slashes at the front of a name and reads dots as slashes. What a mask hides under one
spelling can therefore be had under another: a name mask hides exactly the requests whose own
spelling begins with it, and without one of them a request is answered as if there were none.
-/

namespace MaskedPath

open MaskedPath.Action ModuleName

/-! ## Without name masks -/

namespace Judge

def withoutNames (j : Judge) : Judge := { j with registry := { j.registry with names := [] } }

theorem origin_withoutNames (j : Judge) : j.withoutNames.origin = j.origin := by
  funext location
  unfold origin withoutNames
  cases Location.archiveKey? location with
  | none => rfl
  | some key =>
      refine bind_congr fun library => ?_
      cases library <;> rfl

theorem originOfFirst_withoutNames (j : Judge) : j.withoutNames.originOfFirst = j.originOfFirst := by
  funext locate resources
  unfold originOfFirst
  rw [origin_withoutNames]

theorem visible_withoutNames (j : Judge) : j.withoutNames.visible = j.visible := by
  funext locations
  unfold visible
  rw [origin_withoutNames]

end Judge

namespace Replies

variable {j : Judge} {p : Replies} {name : Text}

theorem locate_of_not_hidden (shown : j.registry.hidesResource name = false) :
    (p.masked j).locate name = (p.masked j.withoutNames).locate name := by
  have bare : j.withoutNames.registry.hidesResource name = false := rfl
  simp [masked, shown, bare, Judge.originOfFirst_withoutNames]

theorem enumerate_of_not_hidden (shown : j.registry.hidesResource name = false) :
    (p.masked j).enumerate name = (p.masked j.withoutNames).enumerate name := by
  have bare : j.withoutNames.registry.hidesResource name = false := rfl
  simp [masked, shown, bare, Judge.visible_withoutNames]

theorem resolve_of_not_hidden (shown : j.registry.hidesName name = false) (finalize : Bool) :
    (p.masked j).resolve name finalize = (p.masked j.withoutNames).resolve name finalize := by
  have bare : j.withoutNames.registry.hidesName name = false := rfl
  simp [masked, shown, bare, Judge.originOfFirst_withoutNames]

end Replies

/-! ## Requests and their spellings -/

theorem Search.plainName_of_head? {name : Text} (spelling : name.head? ≠ some '/') :
    Search.plainName name = name := by
  rcases name with _ | ⟨c, name⟩
  · rfl
  · have head : c ≠ '/' := by simpa using spelling
    simp [Search.plainName, head]

def Store.withoutNames (s : Store) (id : Nat) : Store :=
  s.setMasking id { s.masking id with registry := { (s.masking id).registry with names := [] } }

theorem Store.withoutNames_updates [Runtime] (fs : FileSystem) {s : Store} {id : Nat}
    (known : id < s.maskings.length) :
    s.Updates fs id (s.judge fs id).withoutNames (s.withoutNames id) :=
  Store.updates_setRegistry known _

/-- A masking resolver over a search hides a request by name exactly when the request's own spelling
begins with a name mask; every other request is answered as if there were no name masks. So no
request that begins without a slash slips past a mask that hides it, and no module does whose name
begins without a dot and holds no slash, if the masks hold none. -/
theorem hidden_iff_spelling_hidden [Runtime] {fs : FileSystem} {s : Store} (reached : Reachable fs s)
    {id : Nat} (known : id < s.maskings.length) (entries : List Path) :
    let r : Resolver := .masking id (.search entries .nowhere)
    let registry := (s.masking id).registry
    let bare := s.withoutNames id
    (∀ name, ((r.locate fs name).run s).1 = .ok none ∧ ((r.enumerate fs name).run s).1 = .ok [] ↔
      registry.hidesResource name = true ∨
        ((r.locate fs name).run bare).1 = .ok none ∧ ((r.enumerate fs name).run bare).1 = .ok []) ∧
    (∀ name finalize, ((r.resolve fs name finalize).run s).1 = .ok none ↔
      registry.hidesName name = true ∨ ((r.resolve fs name finalize).run bare).1 = .ok none) ∧
    (∀ name, registry.hidesResource (Search.plainName name) = true → name.head? ≠ some '/' →
      ((r.locate fs name).run s).1 = .ok none ∧ ((r.enumerate fs name).run s).1 = .ok []) ∧
    (∀ name finalize, registry.hidesResource (Search.plainName (plain name)) = true →
      name.head? ≠ some '.' → '/' ∉ name → (∀ mask ∈ registry.names, '/' ∉ mask) →
      ((r.resolve fs name finalize).run s).1 = .ok none) := by
  intro r registry bare
  have updated := Store.withoutNames_updates fs known
  have bareFaithful : bare.Faithful fs := updated.faithful reached.faithful
  let p : Replies := (Resolver.search entries .nowhere).replies fs (s.judge fs)
  have replies_eq : r.replies fs (s.judge fs) = p.masked (s.judge fs id) := rfl
  have replies_bare : r.replies fs (bare.judge fs) = p.masked (s.judge fs id).withoutNames :=
    congrArg p.masked updated.own
  simp only [Resolver.locate_run reached.faithful, Resolver.enumerate_run reached.faithful,
    Resolver.resolve_run reached.faithful, Resolver.locate_run bareFaithful,
    Resolver.enumerate_run bareFaithful, Resolver.resolve_run bareFaithful, replies_eq,
    replies_bare]
  refine ⟨fun name => ?_, fun name finalize => ?_, fun name hidden spelling => ?_,
    fun name finalize hidden noDot noSlash masks_noSlash => ?_⟩
  · cases hidden : registry.hidesResource name with
    | true =>
        have hidden' : (s.judge fs id).registry.hidesResource name = true := hidden
        simp [Replies.locate_of_hidden hidden', Replies.enumerate_of_hidden hidden']
    | false =>
        have shown : (s.judge fs id).registry.hidesResource name = false := hidden
        simp [Replies.locate_of_not_hidden shown, Replies.enumerate_of_not_hidden shown]
  · cases hidden : registry.hidesName name with
    | true =>
        have hidden' : (s.judge fs id).registry.hidesName name = true := hidden
        simp [Replies.resolve_of_hidden hidden']
    | false =>
        have shown : (s.judge fs id).registry.hidesName name = false := hidden
        simp [Replies.resolve_of_not_hidden shown]
  · rw [Search.plainName_of_head? spelling] at hidden
    exact ⟨Replies.locate_of_hidden hidden, Replies.enumerate_of_hidden hidden⟩
  · have noSlash' : name.head? ≠ some '/' := fun h => noSlash (List.mem_of_head? h)
    have hidden' : registry.hidesResource (plain name) = true := by
      rw [← dropWhile_plain noDot noSlash']
      exact hidden
    exact Replies.resolve_of_hidden
      (Registry.hidesName_of_hidesResource_plain noSlash masks_noSlash hidden') finalize

/-! ## A directory with a secret -/

def secretFiles : FileSystem where
  nodes := [([['t'], ['d'], "secret.py".toList], .file []), ([['t'], ['d']], .directory),
    ([['t']], .directory)]
  home := [['t']]

def secretSearch : Resolver := .search [.parse ['d']] .nowhere

def secretStore : Store :=
  ((secretSearch.mask ["secret".toList] (.identifier {}) .keepAll).run .empty).2

theorem reachable_secretStore [Runtime] : Reachable secretFiles secretStore :=
  .mask .start secretSearch ["secret".toList] (.identifier {}) .keepAll

open scoped MaskedPath.Standard in
theorem hidden_iff_spelling_hidden_secret :
    let r : Resolver := .masking 0 secretSearch
    Reachable secretFiles secretStore ∧ 0 < secretStore.maskings.length ∧
      ((r.locate secretFiles "secret.py".toList).run secretStore).1 = .ok none ∧
      ((r.enumerate secretFiles "secret.py".toList).run secretStore).1 = .ok [] ∧
      ((r.resolve secretFiles "secret".toList false).run secretStore).1 = .ok none := by
  intro r
  have known : 0 < secretStore.maskings.length := by decide
  obtain ⟨-, -, resource, module⟩ := hidden_iff_spelling_hidden reachable_secretStore known
    [.parse ['d']]
  obtain ⟨located, enumerated⟩ := resource "secret.py".toList (by decide) (by decide)
  exact ⟨reachable_secretStore, known, located, enumerated,
    module "secret".toList false (by decide) (by decide) (by decide) (by decide)⟩

open scoped MaskedPath.Standard in
/-- A slash at the front of a name uncovers what the mask hides: the resource is located and listed,
and the module is found. -/
theorem slash_uncovers_secret :
    let r : Resolver := .masking 0 secretSearch
    let registry := (secretStore.masking 0).registry
    let location : Location := "file:///t/d/secret.py".toList
    (registry.hidesResource (Search.plainName "/secret.py".toList) = true ∧
      ((r.locate secretFiles "/secret.py".toList).run secretStore).1 = .ok (some location) ∧
      ((r.enumerate secretFiles "/secret.py".toList).run secretStore).1 = .ok [location]) ∧
    (registry.hidesResource (Search.plainName (plain "/secret".toList)) = true ∧
      ((r.resolve secretFiles "/secret".toList false).run secretStore).1 =
        .ok (some ⟨"/secret".toList, location, [], false, false⟩)) := by
  intro r registry location
  refine ⟨⟨by decide, ?_, ?_⟩, by decide, ?_⟩
  · cbv
  · cbv
  · cbv

end MaskedPath
