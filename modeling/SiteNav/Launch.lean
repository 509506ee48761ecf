/-!
# Launching the site

The site is launched in three strides: the log is set up, a failure to do so is reported and
ignored, and then a platform is looked for to show the site on. A native build has none, which ends
the program.
-/

namespace SiteNav

/-- What launching writes to the error stream, and the message it ends with. -/
structure Launch where
  stderr : String
  failure : String
deriving DecidableEq, Repr

/-- The report that another log has been set up before. -/
def logSetupReport : String :=
  "logger init failed: a global default trace dispatcher has already been set\n"

def noPlatformMessage : String :=
  "No platform feature enabled. Please enable one of the following features: " ++
    "liveview, desktop, mobile, web, tui, fullstack to use the launch API."

/-- Launches the site, possibly after another log has been set up. -/
def launch (logInstalled : Bool) : Launch :=
  ⟨if logInstalled then logSetupReport else "", noPlatformMessage⟩

end SiteNav
