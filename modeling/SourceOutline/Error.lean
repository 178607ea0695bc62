/-! What can go wrong in a scan. -/
namespace SourceOutline

inductive ScanError where
  | unsupportedFileType (fileType : String)
  | parseFailure (path reason : String)
  | queryFailure (query reason : String)
  | readFailure (path reason : String)
  | directoryNotFound (path : String)
  | invalidArgument (reason : String)
deriving DecidableEq, Repr

namespace ScanError

def message : ScanError → String
  | unsupportedFileType fileType => "Unsupported file type: " ++ fileType
  | parseFailure path reason => "Failed to parse " ++ path ++ ": " ++ reason
  | queryFailure query reason => "Query execution failed (" ++ query ++ "): " ++ reason
  | readFailure path reason => "Failed to read " ++ path ++ ": " ++ reason
  | directoryNotFound path => "Directory not found: " ++ path
  | invalidArgument reason => "Invalid argument: " ++ reason

end ScanError

end SourceOutline
