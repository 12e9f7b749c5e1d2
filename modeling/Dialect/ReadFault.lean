import Dialect.Error

namespace Dialect

-- A text is not of the format, which leaves it to be taken as plain text, or it is but has
-- something that cannot be built.
inductive ReadFault where
  | malformed
  | refused (e : Error)
deriving Inhabited

end Dialect
