/-
  The report of a build, line by line.
-/

import StaticSite.Build.Summary

namespace StaticSite

namespace Report

/-- A noun in the plural; after an `s` a syllable is added. -/
def plural (noun : String) : String :=
  if noun.toList.getLast? == some 's' then noun ++ "es" else noun ++ "s"

/-- A number with what it counts. -/
def count (n : Nat) (noun : String) : String :=
  toString n ++ " " ++ if n == 1 then noun else plural noun

def indent : String := "    "

def pageLines (p : PageSummary) : List String :=
  [p.page.text ++ " → " ++ p.output.text,
   indent ++ ", ".intercalate
    [count p.passes "pass", count p.partials "partial", count p.resources "resource"]]

def eventLines : Event → List String
  | .pageCompiled p => pageLines p
  | .stubCreated path => [indent ++ "Created: " ++ path.text]
  | .assetsCopied 0 => ["Assets: none"]
  | .assetsCopied n => ["Assets: " ++ count n "file" ++ " copied"]

def summaryLines (s : Summary) : List String :=
  let partials := count (s.pages.foldl (fun n page => n + page.partials) 0) "partial"
  let stubs := if s.stubsCreated > 0 then [count s.stubsCreated "stub"] else []
  ["Compiled " ++ count s.pages.length "page" ++ " (" ++ ", ".intercalate (partials :: stubs) ++ ")",
   "Cache: " ++ s.stats.text]

end Report

end StaticSite
