import ElectroLend.Library.Outcome

namespace ElectroLend

/-- The ways a modelled call reverts: the constants of the `Errors` library that the modelled
code uses, then the reverts of SafeMath, of the token bases and of the compiler. -/
inductive Errors
  | borrowAllowanceNotEnough
  | vlInvalidAmount
  | vlNoActiveReserve
  | vlReserveFrozen
  | vlNotEnoughAvailableUserBalance
  | vlTransferNotAllowed
  | vlBorrowingNotEnabled
  | vlInvalidInterestRateModeSelected
  | vlCollateralBalanceIs0
  | vlHealthFactorLowerThanLiquidationThreshold
  | vlCollateralCannotCoverNewBorrow
  | vlStableBorrowingNotEnabled
  | vlCollateralSameAsBorrowingCurrency
  | vlAmountBiggerThanMaxLoanSizeStable
  | vlNoDebtOfSelectedType
  | vlNoExplicitAmountToRepayOnBehalf
  | vlNoStableRateLoanInReserve
  | vlNoVariableRateLoanInReserve
  | vlUnderlyingBalanceNotGreaterThan0
  | vlDepositAlreadyInUse
  | lpInterestRateRebalanceConditionsNotMet
  | lpLiquidationCallFailed
  | rlReserveAlreadyInitialized
  | lpcReserveLiquidityNot0
  | lpcmHealthFactorNotBelowThreshold
  | lpcmCollateralCannotBeLiquidated
  | lpcmSpecifiedCurrencyNotBorrowedByUser
  | lpcmNotEnoughLiquidityToLiquidate
  | mathMultiplicationOverflow
  | mathAdditionOverflow
  | mathDivisionByZero
  | rlLiquidityIndexOverflow
  | rlVariableBorrowIndexOverflow
  | rlLiquidityRateOverflow
  | rlVariableBorrowRateOverflow
  | rlStableBorrowRateOverflow
  | ctInvalidMintAmount
  | ctInvalidBurnAmount
  | lpCallerMustBeAnELToken
  | lpIsPaused
  | lpNoMoreReservesAllowed
  | lpInvalidFlashLoanExecutorReturn
  | rcInvalidLtv
  | rcInvalidLiqThreshold
  | rcInvalidLiqBonus
  | rcInvalidDecimals
  | rcInvalidReserveFactor
  | vlInconsistentFlashloanParams
  | lpcInvalidConfiguration
  | ulInvalidIndex
  | lpNotContract
  | sdtStableDebtOverflow
  | sdtBurnExceedsBalance
  | inconsistentState
  | safeMathAdditionOverflow
  | safeMathSubtractionOverflow
  | safeMathMultiplicationOverflow
  | safeMathDivisionByZero
  | erc20TransferFromZeroAddress
  | erc20TransferToZeroAddress
  | erc20MintToZeroAddress
  | erc20BurnFromZeroAddress
  | erc20ApproveFromZeroAddress
  | erc20ApproveToZeroAddress
  | erc20TransferAmountExceedsBalance
  | erc20TransferAmountExceedsAllowance
  | erc20BurnAmountExceedsBalance
  | safeERC20LowLevelCallFailed
  | callToNonContract
  | upgradeCallFailed
  | outOfFunds
  | wethRequireFailed
  | msgValueLessThanRepayment
  | withdrawEthBalanceInconsistent
  | ethTransferFailed
  | invalidEnumValue
  | indexOutOfBounds
  deriving DecidableEq, Repr

/-- The revert string; empty where the compiler reverts without one. -/
def Errors.message : Errors → String
  | borrowAllowanceNotEnough => "59"
  | vlInvalidAmount => "1"
  | vlNoActiveReserve => "2"
  | vlReserveFrozen => "3"
  | vlNotEnoughAvailableUserBalance => "5"
  | vlTransferNotAllowed => "6"
  | vlBorrowingNotEnabled => "7"
  | vlInvalidInterestRateModeSelected => "8"
  | vlCollateralBalanceIs0 => "9"
  | vlHealthFactorLowerThanLiquidationThreshold => "10"
  | vlCollateralCannotCoverNewBorrow => "11"
  | vlStableBorrowingNotEnabled => "12"
  | vlCollateralSameAsBorrowingCurrency => "13"
  | vlAmountBiggerThanMaxLoanSizeStable => "14"
  | vlNoDebtOfSelectedType => "15"
  | vlNoExplicitAmountToRepayOnBehalf => "16"
  | vlNoStableRateLoanInReserve => "17"
  | vlNoVariableRateLoanInReserve => "18"
  | vlUnderlyingBalanceNotGreaterThan0 => "19"
  | vlDepositAlreadyInUse => "20"
  | lpInterestRateRebalanceConditionsNotMet => "22"
  | lpLiquidationCallFailed => "23"
  | rlReserveAlreadyInitialized => "32"
  | lpcReserveLiquidityNot0 => "34"
  | lpcmHealthFactorNotBelowThreshold => "42"
  | lpcmCollateralCannotBeLiquidated => "43"
  | lpcmSpecifiedCurrencyNotBorrowedByUser => "44"
  | lpcmNotEnoughLiquidityToLiquidate => "45"
  | mathMultiplicationOverflow => "48"
  | mathAdditionOverflow => "49"
  | mathDivisionByZero => "50"
  | rlLiquidityIndexOverflow => "51"
  | rlVariableBorrowIndexOverflow => "52"
  | rlLiquidityRateOverflow => "53"
  | rlVariableBorrowRateOverflow => "54"
  | rlStableBorrowRateOverflow => "55"
  | ctInvalidMintAmount => "56"
  | ctInvalidBurnAmount => "58"
  | lpCallerMustBeAnELToken => "63"
  | lpIsPaused => "64"
  | lpNoMoreReservesAllowed => "65"
  | lpInvalidFlashLoanExecutorReturn => "66"
  | rcInvalidLtv => "67"
  | rcInvalidLiqThreshold => "68"
  | rcInvalidLiqBonus => "69"
  | rcInvalidDecimals => "70"
  | rcInvalidReserveFactor => "71"
  | vlInconsistentFlashloanParams => "73"
  | lpcInvalidConfiguration => "75"
  | ulInvalidIndex => "77"
  | lpNotContract => "78"
  | sdtStableDebtOverflow => "79"
  | sdtBurnExceedsBalance => "80"
  | inconsistentState => "999"
  | safeMathAdditionOverflow => "SafeMath: addition overflow"
  | safeMathSubtractionOverflow => "SafeMath: subtraction overflow"
  | safeMathMultiplicationOverflow => "SafeMath: multiplication overflow"
  | safeMathDivisionByZero => "SafeMath: division by zero"
  | erc20TransferFromZeroAddress => "ERC20: transfer from the zero address"
  | erc20TransferToZeroAddress => "ERC20: transfer to the zero address"
  | erc20MintToZeroAddress => "ERC20: mint to the zero address"
  | erc20BurnFromZeroAddress => "ERC20: burn from the zero address"
  | erc20ApproveFromZeroAddress => "ERC20: approve from the zero address"
  | erc20ApproveToZeroAddress => "ERC20: approve to the zero address"
  | erc20TransferAmountExceedsBalance => "ERC20: transfer amount exceeds balance"
  | erc20TransferAmountExceedsAllowance => "ERC20: transfer amount exceeds allowance"
  | erc20BurnAmountExceedsBalance => "ERC20: burn amount exceeds balance"
  | safeERC20LowLevelCallFailed => "SafeERC20: low-level call failed"
  | callToNonContract => ""
  | upgradeCallFailed => ""
  | outOfFunds => ""
  | wethRequireFailed => ""
  | msgValueLessThanRepayment => "msg.value is less than repayment amount"
  | withdrawEthBalanceInconsistent => "WITHDRAW_ETH_BALANCE_INCONSISTENT"
  | ethTransferFailed => "ETH_TRANSFER_FAILED"
  | invalidEnumValue => ""
  | indexOutOfBounds => ""

abbrev Result (α : Type) := Except Errors α

abbrev Address := Nat

end ElectroLend
