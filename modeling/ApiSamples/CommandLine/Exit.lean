import ApiSamples.CommandLine.Run
import ApiSamples.Error.Report

namespace ApiSamples

structure Exit where
  code : Nat
  output : String
  errors : List String
  files : FileSystem

namespace Exit

def version : String := "exemplar-gen 0.1.0\n"

def usage : String := "Usage: exemplar-gen [OPTIONS] --model <MODEL>"

def help : String :=
  "Generates TypeScript usage samples from recorded API examples\n\n" ++ usage ++ "\n\n" ++
  "Options:\n" ++
  String.join ([
    ("  -m, --model <MODEL>", "Code model JSON document"),
    ("  -o, --output <OUTPUT>", "Output directory for generated samples [default: samples]"),
    ("  -s, --settings <SETTINGS>", "Settings file (TOML)"),
    ("      --package-name <PACKAGE_NAME>",
      "npm package the samples import the client from (overrides settings)"),
    ("      --package-version <PACKAGE_VERSION>", "Package version (overrides settings)"),
    ("      --fragments", "Also write inline documentation fragments"),
    ("      --dry-run", "Print generated samples without writing files"),
    ("  -v, --verbose...", "Increase verbosity (-v, -vv, -vvv)"),
    ("      --json", "Emit logs as JSON"),
    ("  -h, --help", "Print help"),
    ("  -V, --version", "Print version")].map fun (option, text) =>
      option ++ "\n          " ++ text ++ "\n")

def ofArguments (args : List String) (fs : FileSystem) : Exit :=
  match Options.request args with
  | .misuse => ⟨2, "", [usage], fs⟩
  | .help => ⟨0, help, [], fs⟩
  | .version => ⟨0, version, [], fs⟩
  | .run model o =>
    let run := o.run model fs.read? { files := fs }
    let log := o.log run.notes
    match run.value with
    | (w, .error e) => ⟨1, w.printedText, log ++ ["Error: " ++ e.report], w.files⟩
    | (w, .ok done) => ⟨0, w.printedText, log ++ o.summaryLines done, w.files⟩

end Exit

end ApiSamples
