import MaskedPath.Resolver.Mask
import MaskedPath.Settings.Basic

namespace MaskedPath.Settings

def policy (s : Settings) : Policy :=
  if h : 0 < s.capacity then .keepRecent s.capacity h else .keepAll

def search (s : Settings) : Resolver := .search (s.searchPath.map .parse) .nowhere

def build (fs : FileSystem) (s : Settings) (parent : Option Resolver) : Action Resolver := do
  let r ← (parent.getD s.search).mask s.nameMasks (.identifier {}) s.policy
  if let some (id, _) := r.masking? then
    s.maskFiles.forM (Masking.loadLibraries fs id)
    let lines := s.libraryMasks.map wide
    (MaskList.events lines).forM Action.emit
    let _ ← Masking.addLibraries id ((MaskList.parse lines).map some)
  return r

end MaskedPath.Settings
