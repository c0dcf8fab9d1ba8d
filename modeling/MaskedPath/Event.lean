import MaskedPath.Identifier

namespace MaskedPath

inductive Level
  | debug
  | info
  | warning
  | error
  | critical
deriving DecidableEq, Repr

def Level.name : Level → String
  | .debug => "DEBUG"
  | .info => "INFO"
  | .warning => "WARNING"
  | .error => "ERROR"
  | .critical => "CRITICAL"

def Level.number : Level → Nat
  | .debug => 10
  | .info => 20
  | .warning => 30
  | .error => 40
  | .critical => 50

inductive Event
  | attribution (a : Attribution)
  | masksLoaded (count : Nat) (source : Path)
  | masksFailed (source : Path) (cause : Failure)
  | maskIgnored (entry : WideText)
  | nameMaskAdded (namePrefix : Text)
  | libraryMasksAdded (count : Nat)
  | evicted (count : Nat)
  | entrySkipped (entry : Path) (cause : Failure)
  | resolved (name : Text) (location : Location)
  | hiddenByLibrary (location : Location) (library : Library)
  | hiddenByName (name : Text)
  | hiddenByResource (name : Text)
  | imported (name : Text) (location : Location)
  | settingsLoaded (source : Path)
deriving DecidableEq

namespace Event

def level : Event → Level
  | .masksFailed .. => .warning
  | _ => .debug

def source : Event → String
  | .attribution _ => "masking_resolver.identifier"
  | .masksLoaded .. | .masksFailed .. | .maskIgnored _ => "masking_resolver.mask_list"
  | .nameMaskAdded _ | .libraryMasksAdded _ => "masking_resolver.registry"
  | .evicted _ => "masking_resolver.cache"
  | .entrySkipped .. | .resolved .. => "masking_resolver.sources"
  | .hiddenByLibrary .. | .hiddenByName _ | .hiddenByResource _ => "masking_resolver.resolver"
  | .imported .. => "masking_resolver.importer"
  | .settingsLoaded _ => "masking_resolver.settings"

def message : Event → WideText
  | .attribution a => a.message
  | .masksLoaded count p =>
    wideOf "Loaded " ++ wide (decimal count) ++ wideOf " library mask(s) from " ++ wide p.render
  | .masksFailed p e =>
    wideOf "Failed to load library masks from " ++ wide p.render ++ wideOf ": " ++ wideOf e.message
  | .maskIgnored entry => wideOf "Ignoring unparsable mask entry: " ++ wide (Quoted.ofWide entry)
  | .nameMaskAdded namePrefix => wideOf "Added name mask: " ++ wide namePrefix
  | .libraryMasksAdded count =>
    wideOf "Added " ++ wide (decimal count) ++ wideOf " library mask(s)"
  | .evicted count => wideOf "Evicted " ++ wide (decimal count) ++ wideOf " attribution(s)"
  | .entrySkipped p e =>
    wideOf "Skipping unreadable search path entry " ++ wide p.render ++ wideOf ": " ++
      wideOf e.message
  | .resolved name location =>
    wideOf "[resolve] " ++ wide name ++ wideOf " -> " ++ wide location
  | .hiddenByLibrary location library =>
    wideOf "[mask] " ++ wide location ++ wideOf " is packaged by masked library " ++ library.render
  | .hiddenByName name => wideOf "[mask] " ++ wide name ++ wideOf " hidden by name mask"
  | .hiddenByResource name => wideOf "[mask] " ++ wide name ++ wideOf " hidden by resource mask"
  | .imported name location => wideOf "[import] " ++ wide name ++ wideOf " -> " ++ wide location
  | .settingsLoaded p => wideOf "Loaded settings from " ++ wide p.render

end Event

end MaskedPath
