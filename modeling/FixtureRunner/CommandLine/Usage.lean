/-
The options of the command line, and what is wrong with a command line.
-/

import FixtureRunner.Batch.Report

namespace FixtureRunner.CommandLine

inductive ModeFlag where
  | clean
  | update
  | dump
deriving DecidableEq

inductive Flag where
  | mode (mode : ModeFlag)
  | verbose
  | help
  | version
deriving DecidableEq

inductive Setting where
  | root
  | config
  | compiler
  | timeoutMs
  | reportOut
deriving DecidableEq

def ModeFlag.name : ModeFlag → String
  | .clean => "clean"
  | .update => "update"
  | .dump => "dump"

def ModeFlag.runMode : ModeFlag → RunMode
  | .clean => .cleanOnly
  | .update => .update
  | .dump => .dump

namespace Flag

def name : Flag → String
  | .mode chosen => chosen.name
  | .verbose => "verbose"
  | .help => "help"
  | .version => "version"

def letter : Flag → Char
  | .mode .clean => 'c'
  | .mode .update => 'u'
  | .mode .dump => 'd'
  | .verbose => 'v'
  | .help => 'h'
  | .version => 'V'

def all : List Flag :=
  [.mode .clean, .mode .update, .mode .dump, .verbose, .help, .version]

/-- How a message refers to the option; one that can be repeated shows it. -/
def shown : Flag → String
  | .verbose => "--verbose..."
  | flag => "--" ++ flag.name

end Flag

namespace Setting

def name : Setting → String
  | .root => "root"
  | .config => "config"
  | .compiler => "compiler"
  | .timeoutMs => "timeout-ms"
  | .reportOut => "report-out"

def valueName : Setting → String
  | .root => "DIR"
  | .config => "PATH"
  | .compiler => "PATH"
  | .timeoutMs => "MS"
  | .reportOut => "PATH"

def all : List Setting :=
  [.root, .config, .compiler, .timeoutMs, .reportOut]

def shown (setting : Setting) : String :=
  "--" ++ setting.name ++ " <" ++ setting.valueName ++ ">"

end Setting

inductive NumberFault where
  | empty
  | badDigit
  | tooLarge
deriving DecidableEq

def NumberFault.message : NumberFault → String
  | .empty => "cannot parse integer from empty string"
  | .badDigit => "invalid digit found in string"
  | .tooLarge => "number too large to fit in target type"

/-- Why the program does not run: a request for information or a mistake. -/
inductive Refusal where
  | help
  | version
  | unknown (argument : String)
  | valueMissing (setting : Setting)
  | valueUnwanted (flag : Flag) (value : String)
  | badNumber (setting : Setting) (value : String) (fault : NumberFault)
  | repeatedSetting (setting : Setting)
  | repeatedMode (mode : ModeFlag)
  /-- A mode was given together with others. -/
  | modeConflict (mode : ModeFlag) (others : List ModeFlag)
deriving DecidableEq

def versionText : String :=
  Report.toolName ++ " " ++ Report.toolVersion ++ "\n"

def helpText : String :=
  "Fixture-driven regression runner for the compiler.\n\n" ++
  "Usage: tstrun [OPTIONS] [FRAGMENT]...\n\n" ++
  "Arguments:\n" ++
  "  [FRAGMENT]...  Name fragments selecting fixtures; a trailing extension is ignored. " ++
    "Fragments starting with `-` go after `--`\n\n" ++
  "Options:\n" ++
  "  -c, --clean              Remove derived artifacts of the selected fixtures without running them\n" ++
  "  -u, --update             Run, and replace the expectation of every mismatching fixture\n" ++
  "  -d, --dump               Run, and keep every derived artifact for inspection\n" ++
  "      --root <DIR>         Directory searched recursively for `*.tst` fixtures [default: .]\n" ++
  "      --config <PATH>      Config file (default: `tstrun.json` found upwards from --root)\n" ++
  "      --compiler <PATH>    Compiler under test (overrides config and TSTRUN_COMPILER)\n" ++
  "      --timeout-ms <MS>    Kill a compiler or diff run after this many milliseconds\n" ++
  "      --report-out <PATH>  Write a JSON run report\n" ++
  "  -v, --verbose...         Increase logging verbosity (-v: debug, -vv+: trace)\n" ++
  "  -h, --help               Print help\n" ++
  "  -V, --version            Print version\n"

namespace Refusal

def isInformation : Refusal → Bool
  | .help => true
  | .version => true
  | _ => false

def message : Refusal → String
  | .help => helpText
  | .version => versionText
  | .unknown argument => "error: unexpected argument '" ++ argument ++ "' found"
  | .valueMissing setting =>
      "error: a value is required for '" ++ setting.shown ++ "' but none was supplied"
  | .valueUnwanted flag value =>
      "error: unexpected value '" ++ value ++ "' for '" ++ flag.shown ++
        "' found; no more were expected"
  | .badNumber setting value fault =>
      "error: invalid value '" ++ value ++ "' for '" ++ setting.shown ++ "': " ++ fault.message
  | .repeatedSetting setting =>
      "error: the argument '" ++ setting.shown ++ "' cannot be used multiple times"
  | .repeatedMode mode =>
      "error: the argument '--" ++ mode.name ++ "' cannot be used multiple times"
  | .modeConflict mode others =>
      "error: the argument '--" ++ mode.name ++ "' cannot be used with" ++
        (match others with
          | [other] => " '--" ++ other.name ++ "'"
          | _ => ":")

end Refusal
end FixtureRunner.CommandLine
