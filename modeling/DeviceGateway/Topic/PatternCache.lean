import DeviceGateway.Topic.Pattern
/-!
Patterns that were compiled before, errors included. The cache is emptied when a new one finds it
full; each compilation has a serial number, so two answers with one number are one compilation.
-/
namespace DeviceGateway.Topic

structure Compiled where
  serial : Nat
  result : Except TemplateError Pattern

structure PatternCache where
  entries : List ((String × Mode) × Compiled) := []
  /-- The number of compilations so far. -/
  serials : Nat := 0

namespace PatternCache

def capacity : Nat := 4096

def empty : PatternCache := {}

def size (cache : PatternCache) : Nat := cache.entries.length

def lookup? (cache : PatternCache) (template : String) (mode : Mode) : Option Compiled :=
  cache.entries.lookup (template, mode)

def compile (cache : PatternCache) (template : String) (mode : Mode) : Compiled × PatternCache :=
  (⟨cache.serials, Pattern.compile template mode⟩, { cache with serials := cache.serials + 1 })

/-- Keeps a compilation; an entry of the same key gives way, and all do when the cache is full. -/
def insert (cache : PatternCache) (template : String) (mode : Mode) (c : Compiled) : PatternCache :=
  let kept := if cache.size < capacity then cache.entries else []
  { cache with entries := ((template, mode), c) :: kept.filter fun e => e.1 ≠ (template, mode) }

def get (cache : PatternCache) (template : String) (mode : Mode) : Compiled × PatternCache :=
  match cache.lookup? template mode with
  | some c => (c, cache)
  | none =>
    let (c, cache) := cache.compile template mode
    (c, cache.insert template mode c)

def getAll (cache : PatternCache) (templates : List String) (mode : Mode) : PatternCache :=
  templates.foldl (fun cache template => (cache.get template mode).2) cache

end PatternCache

end DeviceGateway.Topic
