import TwoSpirals.Step

/-!
# The steps of program 0
-/

namespace TwoSpirals.Program

/-- The steps of program 0, in the order they are taken. -/
def table0 : List Step := [
  .greater (.literal 4) (.literal 3) .sin,
  .greater (.literal 3) .x0 .sin,
  .greater .x1 .x0 .cos,
  .always .sin,
  .always .sin,
  .greater .r1 (.literal 8) .cos,
  .greater (.literal 4) (.literal 9) .sin,
  .greater .x1 .r0 .cos,
  .always .cos,
  .greater (.literal 4) .r1 .cos,
  .greater (.literal 2) .x0 .cos,
  .always .sin,
  .always .sin,
  .always .sin,
  .always .cos,
  .always .sin,
  .always .sin,
  .greater .r0 (.literal 5) .sin,
  .greater .r1 .r1 .sin,
  .always .cos,
  .greater (.literal 3) .r1 .cos,
  .greater .r1 (.literal 2) .cos,
  .always .cos,
  .greater (.literal 3) (.literal 5) .sin,
  .always .cos,
  .greater (.literal 7) .r1 .cos,
  .greater (.literal 3) .x0 .cos,
  .greater .x1 .r0 .cos,
  .always .sin,
  .always .cos,
  .always .cos,
  .always .cos,
  .always .sin,
  .always .cos,
  .always .cos,
  .greater (.literal 3) .r1 .sin,
  .greater .x1 (.literal 1) .sin,
  .always .cos,
  .greater .r0 .r0 .cos,
  .greater .x0 .r1 .sin,
  .greater .r1 (.literal 3) .sin,
  .always .sin,
  .greater .r1 (.literal 9) .cos,
  .always .cos,
  .always .cos,
  .always .cos,
  .always .cos,
  .always .sin,
  .greater (.literal 3) .r0 .cos,
  .greater .x0 (.literal 4) .cos,
  .always .sin,
  .greater (.literal 5) (.literal 8) .sin,
  .always .sin,
  .greater .x0 (.literal 8) .sin,
  .always .cos,
  .greater .x0 .r0 .cos,
  .greater .x1 .r0 .cos,
  .always .cos,
  .greater (.literal 2) (.literal 3) .sin,
  .greater .x0 .r0 .sin,
  .greater .r1 .r1 .cos,
  .always .sin,
  .always .cos,
  .always .sin,
  .always .cos,
  .always .cos,
  .always .sin,
  .greater .r1 .x0 .cos,
  .always .sin,
  .greater .x0 .r0 .sin,
  .always .cos,
  .always .sin,
  .greater (.literal 5) .r0 .cos,
  .greater .x0 (.literal 2) .sin,
  .always .cos,
  .always .cos,
  .always .cos,
  .always .cos,
  .greater (.literal 3) (.literal 7) .sin,
  .always .sin,
  .greater .x1 .x0 .cos,
  .always .cos,
  .greater .x0 .x0 .sin,
  .greater .r0 (.literal 8) .sin,
  .greater (.literal 3) .x0 .cos,
  .greater (.literal 1) .r0 .cos,
  .greater .r1 .x0 .cos,
  .greater (.literal 6) .r0 .cos,
  .always .cos,
  .greater .x0 .r0 .cos,
  .greater .x1 .r1 .sin,
  .greater .x1 .r0 .cos,
  .always .cos,
  .always .cos,
  .always .sin,
  .always .cos,
  .always .cos,
  .always .cos,
  .greater .x1 (.literal 4) .sin,
  .always .sin,
  .greater .r0 (.literal 5) .cos,
  .greater .x1 (.literal 8) .cos,
  .greater .x0 .r1 .sin,
  .always .sin,
  .always .sin,
  .greater .x1 .x0 .sin,
  .greater .r1 (.literal 5) .cos,
  .greater .x0 .x0 .cos,
  .greater .x0 .r0 .cos,
  .always .cos,
  .always .cos,
  .always .cos,
  .always .cos,
  .greater .x0 .r0 .sin,
  .always .sin,
  .greater (.literal 5) .r0 .sin,
  .greater .r1 .x0 .cos,
  .always .sin,
  .always .cos,
  .always .sin,
  .greater .r1 .x1 .sin,
  .greater (.literal 8) (.literal 6) .sin,
  .always .cos,
  .always .cos,
  .greater (.literal 4) .x0 .cos,
  .always .sin,
  .always .sin,
  .always .sin,
  .always .sin,
  .greater (.literal 7) .x1 .sin,
  .greater .x0 (.literal 3) .cos,
  .always .sin,
  .always .cos,
  .always .cos,
  .always .sin,
  .greater .x1 .r0 .cos,
  .greater (.literal 5) (.literal 8) .sin,
  .greater .x1 .x0 .sin,
  .greater (.literal 4) (.literal 9) .cos,
  .always .sin,
  .always .sin,
  .always .cos,
  .greater .x1 .r0 .sin,
  .greater .r1 (.literal 4) .cos,
  .always .cos,
  .greater .x1 (.literal 5) .cos,
  .greater .r0 (.literal 7) .sin,
  .greater (.literal 4) .r0 .cos,
  .always .cos,
  .always .cos,
  .always .sin,
  .greater (.literal 7) .x1 .sin,
  .always .cos,
  .greater .x0 (.literal 8) .cos,
  .always .sin,
  .always .cos,
  .always .sin,
  .greater .r1 .r1 .cos,
  .always .sin,
  .greater (.literal 1) (.literal 9) .sin,
  .always .cos,
  .greater (.literal 8) .r0 .sin,
  .always .sin,
  .greater (.literal 3) (.literal 6) .sin,
  .always .cos,
  .greater (.literal 8) .x1 .cos,
  .always .cos,
  .always .sin,
  .always .cos,
  .always .cos,
  .greater .x0 .x0 .cos,
  .always .cos,
  .greater (.literal 1) .x1 .sin,
  .greater .x0 .r1 .sin,
  .greater .r1 .x0 .sin,
  .always .cos,
  .greater .x0 .x0 .cos,
  .always .sin,
  .greater (.literal 3) .r0 .sin,
  .always .sin,
  .greater .x0 .r0 .sin,
  .greater (.literal 6) .r1 .cos,
  .greater .r1 (.literal 2) .cos,
  .always .cos,
  .always .cos,
  .always .cos,
  .greater (.literal 8) .r1 .sin,
  .greater (.literal 2) .x0 .sin,
  .always .cos,
  .always .sin,
  .greater .x1 .r0 .sin,
  .greater (.literal 7) .x0 .sin,
  .greater .x1 (.literal 2) .sin,
  .greater (.literal 9) .x1 .cos,
  .greater .x1 .x0 .sin,
  .always .sin,
  .always .cos,
  .greater .x1 .x1 .sin,
  .always .sin,
  .greater (.literal 7) .x0 .cos,
  .greater .x1 .r0 .cos,
  .greater .x0 (.literal 6) .sin,
  .always .cos,
  .greater (.literal 2) .x0 .sin,
  .always .sin,
  .always .cos,
  .greater (.literal 6) .x0 .cos,
  .greater .x0 .x1 .cos,
  .always .sin,
  .greater (.literal 6) .x0 .cos,
  .always .cos,
  .greater .x1 .r1 .sin,
  .always .sin,
  .always .cos,
  .always .cos,
  .always .sin,
  .always .sin,
  .greater .r0 (.literal 6) .sin,
  .always .sin,
  .greater (.literal 1) .r0 .sin,
  .always .sin,
  .greater .x0 .x1 .sin,
  .greater .x0 (.literal 9) .sin,
  .always .sin,
  .greater (.literal 9) .r1 .cos,
  .always .sin,
  .greater .x1 .r0 .cos,
  .always .cos,
  .greater .r1 .x0 .cos,
  .greater (.literal 3) (.literal 2) .sin,
  .always .cos,
  .always .sin,
  .always .cos,
  .always .cos,
  .greater (.literal 4) (.literal 8) .cos,
  .greater (.literal 4) .r0 .cos,
  .greater (.literal 5) (.literal 6) .sin,
  .greater (.literal 6) (.literal 8) .cos,
  .always .sin,
  .always .sin,
  .always .cos,
  .always .cos,
  .greater (.literal 9) .r1 .cos,
  .greater .x0 .r1 .cos,
  .greater .r1 (.literal 9) .cos,
  .always .cos,
  .always .cos,
  .greater (.literal 1) .r0 .sin,
  .greater .x0 .x1 .cos,
  .always .sin,
  .greater .r0 (.literal 9) .cos,
  .always .cos,
  .greater .r0 (.literal 4) .cos,
  .greater .r1 (.literal 4) .cos,
  .greater (.literal 1) .r1 .sin,
  .always .sin]

end TwoSpirals.Program
