import AddOnLoan.CommandLine.Commands

namespace AddOnLoan

def Stop.message : Stop → Text
  | reported e => e.message
  | fault (.file e) => e.message
  | fault _ => ""

def CommandResult.emit (result : CommandResult) : IO UInt32 := do
  for (name, text) in result.remains.files do
    IO.FS.writeFile name.toString text
  IO.print result.remains.stdout.toString
  IO.eprint result.remains.stderr.toString
  if let some stop := result.stop then
    IO.eprintln ("Error: " ++ stop.message.toString)
  return result.exitCode.toUInt32

end AddOnLoan

/-- What goes wrong outside is found out when the result is written. -/
def main (arguments : List String) : IO UInt32 :=
  let texts := arguments.map fun (argument : String) => (argument : AddOnLoan.Text)
  (AddOnLoan.CommandLine.run AddOnLoan.CommandLine.read (fun _ _ => none) texts).emit
