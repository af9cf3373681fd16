/-
DueTime.Zone.America — the zones of America.

New York, St John's, São Paulo and Havana. St John's has changed its
clocks at one minute past midnight and once by two hours.
-/
import DueTime.Zone.Change

namespace DueTime.Zone

/-- The zone of New York. -/
def newYork : Zone :=
  .ofChanges "America/New_York" (-17762)
    [.once ⟨1883, 11, 18⟩ ⟨17, 0, 0⟩ (-18000),
     .once ⟨1918, 3, 31⟩ ⟨7, 0, 0⟩ (-14400),
     .once ⟨1918, 10, 27⟩ ⟨6, 0, 0⟩ (-18000),
     .once ⟨1919, 3, 30⟩ ⟨7, 0, 0⟩ (-14400),
     .once ⟨1919, 10, 26⟩ ⟨6, 0, 0⟩ (-18000),
     .once ⟨1920, 3, 28⟩ ⟨7, 0, 0⟩ (-14400),
     .once ⟨1920, 10, 31⟩ ⟨6, 0, 0⟩ (-18000),
     .once ⟨1942, 2, 9⟩ ⟨7, 0, 0⟩ (-14400),
     .once ⟨1974, 1, 6⟩ ⟨7, 0, 0⟩ (-14400),
     .once ⟨1975, 2, 23⟩ ⟨7, 0, 0⟩ (-14400),
     .yearly 1921 1941 .sunday 4 24 ⟨7, 0, 0⟩ (-14400),
     .yearly 1921 1941 .sunday 9 24 ⟨6, 0, 0⟩ (-18000),
     .yearly 1945 1954 .sunday 9 24 ⟨6, 0, 0⟩ (-18000),
     .yearly 1946 1973 .sunday 4 24 ⟨7, 0, 0⟩ (-14400),
     .yearly 1955 2006 .sunday 10 25 ⟨6, 0, 0⟩ (-18000),
     .yearly 1976 1986 .sunday 4 24 ⟨7, 0, 0⟩ (-14400),
     .yearly 1987 2006 .sunday 4 1 ⟨7, 0, 0⟩ (-14400),
     .yearly 2007 2099 .sunday 3 8 ⟨7, 0, 0⟩ (-14400),
     .yearly 2007 2099 .sunday 11 1 ⟨6, 0, 0⟩ (-18000)]

/-- The zone of St John's. -/
def stJohns : Zone :=
  .ofChanges "America/St_Johns" (-12652)
    [.once ⟨1917, 4, 8⟩ ⟨5, 30, 52⟩ (-9052),
     .once ⟨1917, 9, 17⟩ ⟨4, 30, 52⟩ (-12652),
     .once ⟨1918, 4, 14⟩ ⟨5, 30, 52⟩ (-9052),
     .once ⟨1918, 10, 27⟩ ⟨4, 30, 52⟩ (-12652),
     .once ⟨1919, 5, 6⟩ ⟨2, 30, 52⟩ (-9052),
     .once ⟨1919, 8, 13⟩ ⟨1, 30, 52⟩ (-12652),
     .once ⟨1935, 3, 30⟩ ⟨3, 30, 52⟩ (-12600),
     .once ⟨1935, 5, 6⟩ ⟨2, 30, 0⟩ (-9000),
     .once ⟨1935, 10, 28⟩ ⟨1, 30, 0⟩ (-12600),
     .once ⟨1950, 10, 8⟩ ⟨4, 30, 0⟩ (-12600),
     .once ⟨1987, 4, 5⟩ ⟨3, 31, 0⟩ (-9000),
     .once ⟨1987, 10, 25⟩ ⟨2, 31, 0⟩ (-12600),
     .once ⟨1988, 4, 3⟩ ⟨3, 31, 0⟩ (-5400),
     .once ⟨1988, 10, 30⟩ ⟨1, 31, 0⟩ (-12600),
     .yearly 1920 1934 .monday 5 2 ⟨2, 30, 52⟩ (-9052),
     .yearly 1920 1934 .monday 10 26 ⟨1, 30, 52⟩ (-12652),
     .yearly 1936 1941 .monday 10 1 ⟨2, 30, 0⟩ (-12600),
     .yearly 1936 1942 .monday 5 9 ⟨3, 30, 0⟩ (-9000),
     .yearly 1945 1949 .sunday 9 30 ⟨4, 30, 0⟩ (-12600),
     .yearly 1946 1950 .sunday 5 8 ⟨5, 30, 0⟩ (-9000),
     .yearly 1951 1959 .sunday 9 24 ⟨4, 30, 0⟩ (-12600),
     .yearly 1951 1986 .sunday 4 24 ⟨5, 30, 0⟩ (-9000),
     .yearly 1960 1986 .sunday 10 25 ⟨4, 30, 0⟩ (-12600),
     .yearly 1989 2006 .sunday 4 1 ⟨3, 31, 0⟩ (-9000),
     .yearly 1989 2006 .sunday 10 25 ⟨2, 31, 0⟩ (-12600),
     .yearly 2007 2010 .sunday 11 1 ⟨2, 31, 0⟩ (-12600),
     .yearly 2007 2011 .sunday 3 8 ⟨3, 31, 0⟩ (-9000),
     .yearly 2011 2099 .sunday 11 1 ⟨4, 30, 0⟩ (-12600),
     .yearly 2012 2099 .sunday 3 8 ⟨5, 30, 0⟩ (-9000)]

/-- The zone of São Paulo. -/
def saoPaulo : Zone :=
  .ofChanges "America/Sao_Paulo" (-11188)
    [.once ⟨1914, 1, 1⟩ ⟨3, 6, 28⟩ (-10800),
     .once ⟨1931, 10, 3⟩ ⟨14, 0, 0⟩ (-7200),
     .once ⟨1932, 4, 1⟩ ⟨2, 0, 0⟩ (-10800),
     .once ⟨1932, 10, 3⟩ ⟨3, 0, 0⟩ (-7200),
     .once ⟨1933, 4, 1⟩ ⟨2, 0, 0⟩ (-10800),
     .once ⟨1949, 12, 1⟩ ⟨3, 0, 0⟩ (-7200),
     .once ⟨1950, 4, 16⟩ ⟨3, 0, 0⟩ (-10800),
     .once ⟨1950, 12, 1⟩ ⟨3, 0, 0⟩ (-7200),
     .once ⟨1951, 4, 1⟩ ⟨2, 0, 0⟩ (-10800),
     .once ⟨1951, 12, 1⟩ ⟨3, 0, 0⟩ (-7200),
     .once ⟨1952, 4, 1⟩ ⟨2, 0, 0⟩ (-10800),
     .once ⟨1952, 12, 1⟩ ⟨3, 0, 0⟩ (-7200),
     .once ⟨1953, 3, 1⟩ ⟨2, 0, 0⟩ (-10800),
     .once ⟨1963, 10, 23⟩ ⟨3, 0, 0⟩ (-7200),
     .once ⟨1964, 3, 1⟩ ⟨2, 0, 0⟩ (-10800),
     .once ⟨1965, 1, 31⟩ ⟨3, 0, 0⟩ (-7200),
     .once ⟨1965, 3, 31⟩ ⟨2, 0, 0⟩ (-10800),
     .once ⟨1965, 12, 1⟩ ⟨3, 0, 0⟩ (-7200),
     .once ⟨1966, 3, 1⟩ ⟨2, 0, 0⟩ (-10800),
     .once ⟨1966, 11, 1⟩ ⟨3, 0, 0⟩ (-7200),
     .once ⟨1967, 3, 1⟩ ⟨2, 0, 0⟩ (-10800),
     .once ⟨1967, 11, 1⟩ ⟨3, 0, 0⟩ (-7200),
     .once ⟨1968, 3, 1⟩ ⟨2, 0, 0⟩ (-10800),
     .once ⟨1985, 11, 2⟩ ⟨3, 0, 0⟩ (-7200),
     .once ⟨1986, 3, 15⟩ ⟨2, 0, 0⟩ (-10800),
     .once ⟨1986, 10, 25⟩ ⟨3, 0, 0⟩ (-7200),
     .once ⟨1987, 2, 14⟩ ⟨2, 0, 0⟩ (-10800),
     .once ⟨1987, 10, 25⟩ ⟨3, 0, 0⟩ (-7200),
     .once ⟨1988, 2, 7⟩ ⟨2, 0, 0⟩ (-10800),
     .once ⟨1989, 1, 29⟩ ⟨2, 0, 0⟩ (-10800),
     .once ⟨1990, 2, 11⟩ ⟨2, 0, 0⟩ (-10800),
     .once ⟨1991, 2, 17⟩ ⟨2, 0, 0⟩ (-10800),
     .once ⟨1992, 2, 9⟩ ⟨2, 0, 0⟩ (-10800),
     .once ⟨1992, 10, 25⟩ ⟨3, 0, 0⟩ (-7200),
     .once ⟨1993, 1, 31⟩ ⟨2, 0, 0⟩ (-10800),
     .once ⟨1993, 10, 17⟩ ⟨3, 0, 0⟩ (-7200),
     .once ⟨1994, 2, 20⟩ ⟨2, 0, 0⟩ (-10800),
     .once ⟨1994, 10, 16⟩ ⟨3, 0, 0⟩ (-7200),
     .once ⟨1995, 2, 19⟩ ⟨2, 0, 0⟩ (-10800),
     .once ⟨1995, 10, 15⟩ ⟨3, 0, 0⟩ (-7200),
     .once ⟨1996, 2, 11⟩ ⟨2, 0, 0⟩ (-10800),
     .once ⟨1996, 10, 6⟩ ⟨3, 0, 0⟩ (-7200),
     .once ⟨1997, 2, 16⟩ ⟨2, 0, 0⟩ (-10800),
     .once ⟨1997, 10, 6⟩ ⟨3, 0, 0⟩ (-7200),
     .once ⟨1998, 3, 1⟩ ⟨2, 0, 0⟩ (-10800),
     .once ⟨1998, 10, 11⟩ ⟨3, 0, 0⟩ (-7200),
     .once ⟨1999, 2, 21⟩ ⟨2, 0, 0⟩ (-10800),
     .once ⟨1999, 10, 3⟩ ⟨3, 0, 0⟩ (-7200),
     .once ⟨2000, 2, 27⟩ ⟨2, 0, 0⟩ (-10800),
     .once ⟨2000, 10, 8⟩ ⟨3, 0, 0⟩ (-7200),
     .once ⟨2001, 10, 14⟩ ⟨3, 0, 0⟩ (-7200),
     .once ⟨2002, 11, 3⟩ ⟨3, 0, 0⟩ (-7200),
     .once ⟨2003, 10, 19⟩ ⟨3, 0, 0⟩ (-7200),
     .once ⟨2004, 11, 2⟩ ⟨3, 0, 0⟩ (-7200),
     .once ⟨2005, 10, 16⟩ ⟨3, 0, 0⟩ (-7200),
     .once ⟨2006, 11, 5⟩ ⟨3, 0, 0⟩ (-7200),
     .once ⟨2007, 2, 25⟩ ⟨2, 0, 0⟩ (-10800),
     .once ⟨2012, 2, 26⟩ ⟨2, 0, 0⟩ (-10800),
     .once ⟨2018, 11, 4⟩ ⟨3, 0, 0⟩ (-7200),
     .yearly 1988 1991 .sunday 10 15 ⟨3, 0, 0⟩ (-7200),
     .yearly 2001 2006 .sunday 2 14 ⟨2, 0, 0⟩ (-10800),
     .yearly 2007 2011 .sunday 10 13 ⟨3, 0, 0⟩ (-7200),
     .yearly 2008 2011 .sunday 2 15 ⟨2, 0, 0⟩ (-10800),
     .yearly 2012 2017 .sunday 10 15 ⟨3, 0, 0⟩ (-7200),
     .yearly 2013 2019 .sunday 2 16 ⟨2, 0, 0⟩ (-10800)]

/-- The zone of Havana. -/
def havana : Zone :=
  .ofChanges "America/Havana" (-19768)
    [.once ⟨1890, 1, 1⟩ ⟨5, 29, 28⟩ (-19776),
     .once ⟨1925, 7, 19⟩ ⟨17, 29, 36⟩ (-18000),
     .once ⟨1928, 6, 10⟩ ⟨5, 0, 0⟩ (-14400),
     .once ⟨1928, 10, 10⟩ ⟨4, 0, 0⟩ (-18000),
     .once ⟨1940, 6, 2⟩ ⟨5, 0, 0⟩ (-14400),
     .once ⟨1940, 9, 1⟩ ⟨4, 0, 0⟩ (-18000),
     .once ⟨1941, 6, 1⟩ ⟨5, 0, 0⟩ (-14400),
     .once ⟨1941, 9, 7⟩ ⟨4, 0, 0⟩ (-18000),
     .once ⟨1942, 6, 7⟩ ⟨5, 0, 0⟩ (-14400),
     .once ⟨1942, 9, 6⟩ ⟨4, 0, 0⟩ (-18000),
     .once ⟨1945, 6, 3⟩ ⟨5, 0, 0⟩ (-14400),
     .once ⟨1945, 9, 2⟩ ⟨4, 0, 0⟩ (-18000),
     .once ⟨1946, 6, 2⟩ ⟨5, 0, 0⟩ (-14400),
     .once ⟨1946, 9, 1⟩ ⟨4, 0, 0⟩ (-18000),
     .once ⟨1965, 6, 1⟩ ⟨5, 0, 0⟩ (-14400),
     .once ⟨1965, 9, 30⟩ ⟨4, 0, 0⟩ (-18000),
     .once ⟨1966, 5, 29⟩ ⟨5, 0, 0⟩ (-14400),
     .once ⟨1966, 10, 2⟩ ⟨4, 0, 0⟩ (-18000),
     .once ⟨1967, 4, 8⟩ ⟨5, 0, 0⟩ (-14400),
     .once ⟨1967, 9, 10⟩ ⟨4, 0, 0⟩ (-18000),
     .once ⟨1968, 4, 14⟩ ⟨5, 0, 0⟩ (-14400),
     .once ⟨1968, 9, 8⟩ ⟨4, 0, 0⟩ (-18000),
     .once ⟨1969, 10, 26⟩ ⟨4, 0, 0⟩ (-18000),
     .once ⟨1970, 10, 25⟩ ⟨4, 0, 0⟩ (-18000),
     .once ⟨1971, 10, 31⟩ ⟨4, 0, 0⟩ (-18000),
     .once ⟨1972, 10, 8⟩ ⟨4, 0, 0⟩ (-18000),
     .once ⟨1973, 10, 8⟩ ⟨4, 0, 0⟩ (-18000),
     .once ⟨1974, 10, 8⟩ ⟨4, 0, 0⟩ (-18000),
     .once ⟨1975, 10, 26⟩ ⟨4, 0, 0⟩ (-18000),
     .once ⟨1976, 10, 31⟩ ⟨4, 0, 0⟩ (-18000),
     .once ⟨1977, 10, 30⟩ ⟨4, 0, 0⟩ (-18000),
     .once ⟨1978, 5, 7⟩ ⟨5, 0, 0⟩ (-14400),
     .once ⟨1979, 3, 18⟩ ⟨5, 0, 0⟩ (-14400),
     .once ⟨1980, 3, 16⟩ ⟨5, 0, 0⟩ (-14400),
     .once ⟨1996, 10, 6⟩ ⟨5, 0, 0⟩ (-18000),
     .once ⟨1997, 10, 12⟩ ⟨5, 0, 0⟩ (-18000),
     .once ⟨2002, 4, 7⟩ ⟨5, 0, 0⟩ (-14400),
     .once ⟨2003, 4, 6⟩ ⟨5, 0, 0⟩ (-14400),
     .once ⟨2004, 3, 28⟩ ⟨5, 0, 0⟩ (-14400),
     .once ⟨2007, 3, 11⟩ ⟨5, 0, 0⟩ (-14400),
     .once ⟨2008, 3, 16⟩ ⟨5, 0, 0⟩ (-14400),
     .once ⟨2009, 3, 8⟩ ⟨5, 0, 0⟩ (-14400),
     .once ⟨2010, 3, 14⟩ ⟨5, 0, 0⟩ (-14400),
     .once ⟨2011, 3, 20⟩ ⟨5, 0, 0⟩ (-14400),
     .once ⟨2011, 11, 13⟩ ⟨5, 0, 0⟩ (-18000),
     .once ⟨2012, 4, 1⟩ ⟨5, 0, 0⟩ (-14400),
     .yearly 1969 1977 .sunday 4 24 ⟨5, 0, 0⟩ (-14400),
     .yearly 1978 1990 .sunday 10 8 ⟨4, 0, 0⟩ (-18000),
     .yearly 1981 1985 .sunday 5 4 ⟨5, 0, 0⟩ (-14400),
     .yearly 1986 1989 .sunday 3 14 ⟨5, 0, 0⟩ (-14400),
     .yearly 1990 1997 .sunday 4 1 ⟨5, 0, 0⟩ (-14400),
     .yearly 1991 1995 .sunday 10 7 ⟨5, 0, 0⟩ (-18000),
     .yearly 1998 2001 .sunday 3 27 ⟨5, 0, 0⟩ (-14400),
     .yearly 1998 2003 .sunday 10 25 ⟨5, 0, 0⟩ (-18000),
     .yearly 2006 2010 .sunday 10 25 ⟨5, 0, 0⟩ (-18000),
     .yearly 2012 2099 .sunday 11 1 ⟨5, 0, 0⟩ (-18000),
     .yearly 2013 2099 .sunday 3 8 ⟨5, 0, 0⟩ (-14400)]

end DueTime.Zone
