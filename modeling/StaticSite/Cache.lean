/-
  The cache of a build.

  A file that was found is read once; what was found then is the answer for the rest of
  the build.  A failure is not kept, so that the next question asks the source again.
-/

import StaticSite.Notice
import StaticSite.Source

namespace StaticSite

/-- How often a cache was asked with success. -/
structure CacheStats where
  hits : Nat := 0
  misses : Nat := 0
  deriving DecidableEq, Repr

def CacheStats.total (s : CacheStats) : Nat := s.hits + s.misses

def CacheStats.text (s : CacheStats) : String :=
  if s.hits > 0 then
    toString s.hits ++ " cached, " ++ toString s.misses ++ " read (" ++ toString s.total ++ " total)"
  else toString s.misses ++ " read"

structure Cache where
  entries : List (List Path.Component × String) := []
  stats : CacheStats := {}
  deriving Repr

/-- The answer of a cache, and the cache after it. -/
structure Answer where
  text? : Option String
  cache : Cache
  notices : List Notice := []

namespace Cache

def text? (cache : Cache) (path : Path) : Option String := cache.entries.lookup path.components

/-- The notice that goes with a text that was read. -/
def readingNotices (path : Path) (r : Reading) : List Notice :=
  if r.lossy then [.decodedLossily path] else []

def hit (cache : Cache) : Cache :=
  { cache with stats := { cache.stats with hits := cache.stats.hits + 1 } }

/-- Keeps a text that was read. -/
def keep (cache : Cache) (path : Path) (text : String) : Cache :=
  { entries := (path.components, text) :: cache.entries
    stats := { cache.stats with misses := cache.stats.misses + 1 } }

/-- The text of a file, from the cache or else from the source. -/
def read [Monad m] (source : Source m) (cache : Cache) (path : Path) : m Answer := do
  match cache.text? path with
  | some text => return { text? := some text, cache := cache.hit }
  | none =>
    match ← source.read path with
    | .ok r =>
      return {
        text? := some r.text
        cache := cache.keep path r.text
        notices := readingNotices path r }
    | .error cause => return { text? := none, cache, notices := [.readFailed path cause] }

/-- Whether a file is known or is there. -/
def has [Monad m] (source : Source m) (cache : Cache) (path : Path) : m Bool := do
  if (cache.text? path).isSome then return true else source.isFile path

end Cache

end StaticSite
