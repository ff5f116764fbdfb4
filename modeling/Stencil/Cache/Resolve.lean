import Stencil.Cache.Store
import Stencil.Directive.Lowering
import Stencil.Sources

/-! # Resolving — the artifact of a template, from memory, disk or its source

    The memory is asked first and the store next; an entry counts only while it
    is fresh.  Otherwise the source is read and compiled, and the artifact is
    kept in both for the later of the present and the source's last change.  When
    resolving fails, memory and store are as they were. -/

namespace Stencil

/-- What an engine works in: the files, the clock, and how many compilations and artifacts there
    have been. -/
structure Host where
  files : FileTree
  clock : Binary64
  compiles : Nat
  stamps : Nat

/-- A cache: the entries in memory, and the store if there is one. -/
structure Cache where
  memory : Table TemplateId Entry
  store : Option Store
deriving Inhabited

namespace Cache

/-- What resolving comes to. -/
abbrev Resolved := Except Fault Artifact × Cache × Host

/-- The entry in memory, if it is fresh. -/
def fresh? (cache : Cache) (template : TemplateId) (changed : Binary64) : Option Entry :=
  (cache.memory.get? template).filter fun entry => entry.isFresh changed

/-- What is stored for a template, if it is fresh. -/
def stored (cache : Cache) (tree : FileTree) (template : TemplateId) (changed : Binary64) :
    Except Trouble (Option Stored) :=
  match cache.store with
  | none => .ok none
  | some store => do
    return (← store.find tree template).filter fun stored => changed.le stored.storedAt

/-- The cache and the host with an artifact kept in memory. -/
def remember (cache : Cache) (host : Host) (template : TemplateId) (artifact : Artifact) :
    Cache × Host :=
  ({ cache with memory := cache.memory.put template ⟨artifact, artifact.compiledAt⟩ },
    { host with stamps := host.stamps + 1 })

/-- The artifact of a source, kept in memory and in the store. -/
def build [FileSystem] (sources : Sources) (ns : List Char) (template : TemplateId) (cache : Cache)
    (host : Host) : Resolved :=
  match sources.read host.files template with
  | .error fault => (.error fault, cache, host)
  | .ok (source, changed) =>
    let host := { host with compiles := host.compiles + 1 }
    match Directive.compile ns Directive.standardRules source with
    | .error error => (.error (.uncompilable template error), cache, host)
    | .ok code =>
      let text := String.ofList code
      let storedAt := host.clock.largest changed
      let artifact : Artifact := ⟨template, .text text, storedAt, host.stamps⟩
      let (cache, host) := cache.remember host template artifact
      match cache.store with
      | none => (.ok artifact, cache, host)
      | some store =>
        let files := store.keep host.files template text storedAt host.clock
        (.ok artifact, cache, { host with files })

/-- The artifact of a template. -/
def resolve [FileSystem] (sources : Sources) (ns : List Char) (template : TemplateId)
    (cache : Cache)
    (host : Host) : Resolved :=
  match sources.changed host.files template with
  | .error fault => (.error fault, cache, host)
  | .ok changed =>
    match cache.fresh? template changed with
    | some entry => (.ok entry.artifact, cache, host)
    | none =>
      match cache.stored host.files template changed with
      | .error trouble => (.error (.trouble trouble), cache, host)
      | .ok (some found) =>
        let artifact : Artifact := ⟨found.template, found.code, found.storedAt, host.stamps⟩
        let (cache, host) := cache.remember host template artifact
        (.ok artifact, cache, host)
      | .ok none => build sources ns template cache host

/-- The cache with nothing in memory, and the tree with the store emptied. -/
def purge (cache : Cache) (host : Host) : Cache × Host :=
  let memory : Table TemplateId Entry := .empty
  match cache.store with
  | none => ({ cache with memory }, host)
  | some store => ({ cache with memory }, { host with files := store.purge host.files })

/-- A summary of the cache's store. -/
def snapshot (cache : Cache) (host : Host) : Snapshot :=
  match cache.store with
  | none => .none
  | some store => store.snapshot host.files

end Cache

end Stencil
