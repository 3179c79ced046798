/-!
What is worth a warning although it does not stop an operation.
-/

namespace Warehouse

/-- A warning, by cause. -/
inductive Warning where
  | unknownEncoding (column encoding : String)
  | valueIgnored (column shape : String)
  | invokerIgnored (view : String)
  deriving DecidableEq, Repr

/-- The wording of a warning. -/
def Warning.message : Warning → String
  | unknownEncoding column encoding =>
    "Column " ++ column ++ " uses unknown Redshift encoding " ++ encoding
  | valueIgnored column shape =>
    "Ignoring initial value for unknown column " ++ column ++ " of " ++ shape
  | invokerIgnored view => "Hive views have no SECURITY INVOKER; ignoring it for " ++ view

end Warehouse
