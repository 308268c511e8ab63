import RustyValve.Std.Text

namespace RustyValve

inductive Error where
  | anyhow (message : Str)
  | foreign (input : Str)
deriving DecidableEq, Repr

inductive Failure where
  | err (error : Error)
  | panicked (message : Str)
deriving DecidableEq, Repr

end RustyValve
