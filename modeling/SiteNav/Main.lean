import SiteNav.Launch

/-!
# The program

The program launches the site in a process of its own, in which no log has been set up before.
-/

/-- Launches the site; the exit code is that of a failed launch. -/
def main : IO UInt32 := do
  let out := SiteNav.launch false
  IO.eprint out.stderr
  IO.eprintln out.failure
  return 101
