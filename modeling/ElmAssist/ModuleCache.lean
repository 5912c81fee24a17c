/-
  A cache of parsed modules.

  Entries are kept by file, paths being compared component by component.  An
  entry holds the module that the last successful load gave; it does not notice
  changes on disk and stays until it is invalidated or replaced.  A failed load
  leaves the entries as they are.  `CacheStats` counts what happened.
-/
import ElmAssist.Disk.Basic
import ElmAssist.Elm.Node
import ElmAssist.Ratio

namespace ElmAssist

/-- A cached module. -/
structure CacheEntry where
  /-- The file as it was named by the load. -/
  filePath : Path
  parsed : Elm.Module
  deriving DecidableEq, Repr

/-- The name of the cached module. -/
def CacheEntry.moduleName (e : CacheEntry) : String :=
  e.parsed.name

/-- What happened in a cache.  The counts are unbounded: a cache in which something
    happens 2^64 times is out of scope. -/
structure CacheStats where
  /-- Look-ups that found an entry. -/
  hits : Nat := 0
  /-- Look-ups that found none. -/
  misses : Nat := 0
  /-- Misses whose file could not be read. -/
  notFound : Nat := 0
  /-- Texts that could not be parsed. -/
  parseFailures : Nat := 0
  /-- Calls to drop an entry. -/
  invalidations : Nat := 0
  deriving DecidableEq, Repr

/-- The share of hits among all look-ups. -/
def CacheStats.hitRate (s : CacheStats) : Ratio.Fraction :=
  Ratio.share s.hits s.misses

/-- A cache of parsed modules. -/
structure ModuleCache where
  /-- The entries, of which no two are for the same file. -/
  entries : List CacheEntry := []
  stats : CacheStats := {}
  deriving DecidableEq, Repr

namespace ModuleCache

/-- The entry for a file. -/
def find? (c : ModuleCache) (p : Path) : Option CacheEntry :=
  c.entries.find? (·.filePath.same p)

/-- Whether there is an entry for a file. -/
def contains (c : ModuleCache) (p : Path) : Bool :=
  (c.find? p).isSome

/-- The entries for other files. -/
def others (c : ModuleCache) (p : Path) : List CacheEntry :=
  c.entries.filter (!·.filePath.same p)

/-- Replaces the entry for a file. -/
def store (c : ModuleCache) (p : Path) (m : Elm.Module) : ModuleCache :=
  { c with entries := ⟨p, m⟩ :: c.others p }

/-- Drops the entry for a file, if there is one, and counts the call. -/
def invalidate (c : ModuleCache) (p : Path) : ModuleCache :=
  { entries := c.others p
    stats := { c.stats with invalidations := c.stats.invalidations + 1 } }

/-- Drops all entries. -/
def clear (c : ModuleCache) : ModuleCache :=
  { c with entries := [] }

/-- Whether there is no entry. -/
def isEmpty (c : ModuleCache) : Bool :=
  c.entries.isEmpty

/-- Counts a hit. -/
def countHit (c : ModuleCache) : ModuleCache :=
  { c with stats := { c.stats with hits := c.stats.hits + 1 } }

/-- Counts a miss. -/
def countMiss (c : ModuleCache) : ModuleCache :=
  { c with stats := { c.stats with misses := c.stats.misses + 1 } }

/-- Counts a file that could not be read. -/
def countNotFound (c : ModuleCache) : ModuleCache :=
  { c with stats := { c.stats with notFound := c.stats.notFound + 1 } }

/-- Counts a text that could not be parsed. -/
def countParseFailure (c : ModuleCache) : ModuleCache :=
  { c with stats := { c.stats with parseFailures := c.stats.parseFailures + 1 } }

/-- Takes the outcome of parsing the text of a file. -/
def record (c : ModuleCache) (p : Path) (outcome : Except Elm.ParseError Elm.Module) :
    Option Elm.Module × ModuleCache :=
  match outcome with
  | .ok m => (some m, c.store p m)
  | .error _ => (none, c.countParseFailure)

/-- The module of a file: the cached one, or else the one that the file on disk
    holds, which is then cached. -/
def get (parse : Elm.SourceParser) (disk : Disk) (c : ModuleCache) (p : Path) :
    Option Elm.Module × ModuleCache :=
  match c.find? p with
  | some entry => (some entry.parsed, c.countHit)
  | none =>
    match disk.contents p with
    | .error _ => (none, c.countMiss.countNotFound)
    | .ok bytes => c.countMiss.record p (parse.ofBytes bytes)

/-- The module that a text holds, cached as that of a file. -/
def getWithSource (parse : Elm.SourceParser) (c : ModuleCache) (p : Path) (source : String) :
    Option Elm.Module × ModuleCache :=
  c.record p (parse source)

end ModuleCache

end ElmAssist
