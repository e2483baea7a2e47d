import PageCrawl.CommandLine.Arguments

/-!
# Help

What the program says of itself: how it is called, and what each option does.
-/

namespace PageCrawl.CommandLine

/-- The name of the program. -/
def programName : String := "lala-spider"

/-- The name of the program with its version. -/
def versionLine : String := programName ++ " 0.1.0"

/-- How the program is called. -/
def usageLine : String :=
  "Usage: " ++ programName ++ " [OPTIONS] " ++ Key.urlTemplate.display ++ " " ++ requestsDisplay

/-- What an option does. -/
def Key.about : Key → String
  | .urlTemplate =>
    "URL to fetch per request, \x60\x7b\x7d\x60 is replaced by the request identifier"
  | .workers => "Number of concurrent workers (defaults to SPIDER_WORKERS or 10)"
  | .delay =>
    "Pause each worker takes before every request, in milliseconds "
      ++ "(defaults to SPIDER_DELAY_MS or 0)"
  | .expect =>
    "CSS selector a page must contain to count as fully rendered; "
      ++ "pages without it are fetched again until they have it"
  | .deadline => "Give up re-fetching after this many seconds"

/-- What a flag does. -/
def Flag.about : Flag → String
  | .verbose | .quiet => ""
  | .help => "Print help"
  | .version => "Print version"

/-- The width of the column of names. -/
def nameWidth : Nat := (Key.all.map fun k => k.display.length).foldl max 0

/-- A line about an option: its letter, its name, and what it does. -/
def helpLine (lead name about : String) : String :=
  "  " ++ lead ++ name ++ String.ofList (List.replicate (nameWidth + 2 - name.length) ' ') ++ about

/-- The help, line by line. -/
def helpLines : List String :=
  ["Fetch many pages in parallel and re-fetch the ones that did not render", "", usageLine, "",
   "Arguments:",
   "  " ++ requestsDisplay ++ "  Request identifiers (search strings, case numbers, ...)", "",
   "Options:"]
    ++ Key.all.map (fun k => helpLine "    " k.display k.about)
    ++ Flag.all.map fun f =>
      helpLine ("-" ++ String.ofList [f.letter] ++ ", ") ("--" ++ f.name) f.about

end PageCrawl.CommandLine
