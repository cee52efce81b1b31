/-
The files that belong to a fixture: the fixture itself and four files beside it
that share its stem.
-/

import FixtureRunner.Path.Basic

namespace FixtureRunner

structure Artifacts where
  fixture : Path
  source : Path
  expected : Path
  generated : Path
  /-- What a failed step said. -/
  errorLog : Path
deriving DecidableEq

namespace Artifacts

def fixtureExtension : String := "tst"

def ofFixture (fixture : Path) : Artifacts :=
  { fixture
    source := fixture.withExtension "syp"
    expected := fixture.withExtension "exp"
    generated := fixture.withExtension "ll"
    errorLog := fixture.withExtension "err" }

/-- Everything but the fixture, in the order of removal. -/
def derived (artifacts : Artifacts) : List Path :=
  [artifacts.source, artifacts.generated, artifacts.expected, artifacts.errorLog]

end Artifacts

def Path.isFixture (path : Path) : Bool :=
  path.extension? = some Artifacts.fixtureExtension.toList

end FixtureRunner
