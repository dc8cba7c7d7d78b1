/-
  What a build reports: events while it runs, and a summary at its end.
-/

import StaticSite.Cache

namespace StaticSite

/-- A page that was written. -/
structure PageSummary where
  /-- The page, seen from the pages directory. -/
  page : Path
  output : Path
  passes : Nat
  partials : Nat
  resources : Nat
  deriving DecidableEq, Repr

inductive Event where
  | pageCompiled (page : PageSummary)
  | stubCreated (path : Path)
  | assetsCopied (files : Nat)
  deriving DecidableEq, Repr

structure Summary where
  pages : List PageSummary := []
  stubsCreated : Nat := 0
  assetsCopied : Nat := 0
  stats : CacheStats := {}
  deriving DecidableEq, Repr

end StaticSite
