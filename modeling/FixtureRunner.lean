import FixtureRunner.Main
import FixtureRunner.Proofs.Batch.Leftovers
import FixtureRunner.Proofs.Fixture.Atomicity
import FixtureRunner.Proofs.Fixture.ByteSections
import FixtureRunner.Proofs.Batch.Rediscovery
import FixtureRunner.Proofs.Normalizer.Standard
import FixtureRunner.Proofs.Batch.ReportText
import FixtureRunner.Proofs.Process.Waiting
import FixtureRunner.Proofs.Config.Search
import FixtureRunner.Proofs.Batch.StatusLines
import FixtureRunner.Proofs.CommandLine.ExitCode
import FixtureRunner.Proofs.CommandLine.Order
import FixtureRunner.Proofs.CommandLine.Programs
import FixtureRunner.Proofs.Process.Capture
import FixtureRunner.Proofs.Fixture.Names
