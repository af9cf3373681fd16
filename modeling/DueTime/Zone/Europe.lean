/-
DueTime.Zone.Europe — the zones of Europe.

Berlin and London, from the first standard time to the year 2099; after
it the last offset stays in force.
-/
import DueTime.Zone.Change

namespace DueTime.Zone

/-- The zone of Berlin. -/
def berlin : Zone :=
  .ofChanges "Europe/Berlin" 3208
    [.once ⟨1893, 3, 31⟩ ⟨23, 6, 32⟩ 3600,
     .once ⟨1916, 4, 30⟩ ⟨22, 0, 0⟩ 7200,
     .once ⟨1916, 9, 30⟩ ⟨23, 0, 0⟩ 3600,
     .once ⟨1917, 4, 16⟩ ⟨1, 0, 0⟩ 7200,
     .once ⟨1917, 9, 17⟩ ⟨1, 0, 0⟩ 3600,
     .once ⟨1918, 4, 15⟩ ⟨1, 0, 0⟩ 7200,
     .once ⟨1918, 9, 16⟩ ⟨1, 0, 0⟩ 3600,
     .once ⟨1940, 4, 1⟩ ⟨1, 0, 0⟩ 7200,
     .once ⟨1942, 11, 2⟩ ⟨1, 0, 0⟩ 3600,
     .once ⟨1943, 3, 29⟩ ⟨1, 0, 0⟩ 7200,
     .once ⟨1943, 10, 4⟩ ⟨1, 0, 0⟩ 3600,
     .once ⟨1944, 4, 3⟩ ⟨1, 0, 0⟩ 7200,
     .once ⟨1944, 10, 2⟩ ⟨1, 0, 0⟩ 3600,
     .once ⟨1945, 4, 2⟩ ⟨1, 0, 0⟩ 7200,
     .once ⟨1945, 5, 24⟩ ⟨0, 0, 0⟩ 10800,
     .once ⟨1945, 9, 24⟩ ⟨0, 0, 0⟩ 7200,
     .once ⟨1945, 11, 18⟩ ⟨1, 0, 0⟩ 3600,
     .once ⟨1946, 4, 14⟩ ⟨1, 0, 0⟩ 7200,
     .once ⟨1946, 10, 7⟩ ⟨1, 0, 0⟩ 3600,
     .once ⟨1947, 4, 6⟩ ⟨2, 0, 0⟩ 7200,
     .once ⟨1947, 5, 11⟩ ⟨1, 0, 0⟩ 10800,
     .once ⟨1947, 6, 29⟩ ⟨0, 0, 0⟩ 7200,
     .once ⟨1947, 10, 5⟩ ⟨1, 0, 0⟩ 3600,
     .once ⟨1948, 4, 18⟩ ⟨1, 0, 0⟩ 7200,
     .once ⟨1948, 10, 3⟩ ⟨1, 0, 0⟩ 3600,
     .once ⟨1949, 4, 10⟩ ⟨1, 0, 0⟩ 7200,
     .once ⟨1949, 10, 2⟩ ⟨1, 0, 0⟩ 3600,
     .once ⟨1980, 4, 6⟩ ⟨1, 0, 0⟩ 7200,
     .yearly 1980 1995 .sunday 9 24 ⟨1, 0, 0⟩ 3600,
     .yearly 1981 2099 .sunday 3 25 ⟨1, 0, 0⟩ 7200,
     .yearly 1996 2099 .sunday 10 25 ⟨1, 0, 0⟩ 3600]

/-- The zone of London. -/
def london : Zone :=
  .ofChanges "Europe/London" (-75)
    [.once ⟨1847, 12, 1⟩ ⟨0, 1, 15⟩ 0,
     .once ⟨1916, 5, 21⟩ ⟨2, 0, 0⟩ 3600,
     .once ⟨1916, 10, 1⟩ ⟨2, 0, 0⟩ 0,
     .once ⟨1917, 4, 8⟩ ⟨2, 0, 0⟩ 3600,
     .once ⟨1917, 9, 17⟩ ⟨2, 0, 0⟩ 0,
     .once ⟨1918, 3, 24⟩ ⟨2, 0, 0⟩ 3600,
     .once ⟨1918, 9, 30⟩ ⟨2, 0, 0⟩ 0,
     .once ⟨1919, 3, 30⟩ ⟨2, 0, 0⟩ 3600,
     .once ⟨1919, 9, 29⟩ ⟨2, 0, 0⟩ 0,
     .once ⟨1920, 3, 28⟩ ⟨2, 0, 0⟩ 3600,
     .once ⟨1920, 10, 25⟩ ⟨2, 0, 0⟩ 0,
     .once ⟨1921, 4, 3⟩ ⟨2, 0, 0⟩ 3600,
     .once ⟨1921, 10, 3⟩ ⟨2, 0, 0⟩ 0,
     .once ⟨1922, 3, 26⟩ ⟨2, 0, 0⟩ 3600,
     .once ⟨1922, 10, 8⟩ ⟨2, 0, 0⟩ 0,
     .once ⟨1923, 4, 22⟩ ⟨2, 0, 0⟩ 3600,
     .once ⟨1923, 9, 16⟩ ⟨2, 0, 0⟩ 0,
     .once ⟨1924, 4, 13⟩ ⟨2, 0, 0⟩ 3600,
     .once ⟨1924, 9, 21⟩ ⟨2, 0, 0⟩ 0,
     .once ⟨1925, 4, 19⟩ ⟨2, 0, 0⟩ 3600,
     .once ⟨1926, 4, 18⟩ ⟨2, 0, 0⟩ 3600,
     .once ⟨1927, 4, 10⟩ ⟨2, 0, 0⟩ 3600,
     .once ⟨1928, 4, 22⟩ ⟨2, 0, 0⟩ 3600,
     .once ⟨1929, 4, 21⟩ ⟨2, 0, 0⟩ 3600,
     .once ⟨1930, 4, 13⟩ ⟨2, 0, 0⟩ 3600,
     .once ⟨1931, 4, 19⟩ ⟨2, 0, 0⟩ 3600,
     .once ⟨1932, 4, 17⟩ ⟨2, 0, 0⟩ 3600,
     .once ⟨1933, 4, 9⟩ ⟨2, 0, 0⟩ 3600,
     .once ⟨1934, 4, 22⟩ ⟨2, 0, 0⟩ 3600,
     .once ⟨1935, 4, 14⟩ ⟨2, 0, 0⟩ 3600,
     .once ⟨1936, 4, 19⟩ ⟨2, 0, 0⟩ 3600,
     .once ⟨1937, 4, 18⟩ ⟨2, 0, 0⟩ 3600,
     .once ⟨1938, 4, 10⟩ ⟨2, 0, 0⟩ 3600,
     .once ⟨1939, 4, 16⟩ ⟨2, 0, 0⟩ 3600,
     .once ⟨1939, 11, 19⟩ ⟨2, 0, 0⟩ 0,
     .once ⟨1940, 2, 25⟩ ⟨2, 0, 0⟩ 3600,
     .once ⟨1941, 5, 4⟩ ⟨1, 0, 0⟩ 7200,
     .once ⟨1941, 8, 10⟩ ⟨1, 0, 0⟩ 3600,
     .once ⟨1942, 4, 5⟩ ⟨1, 0, 0⟩ 7200,
     .once ⟨1942, 8, 9⟩ ⟨1, 0, 0⟩ 3600,
     .once ⟨1943, 4, 4⟩ ⟨1, 0, 0⟩ 7200,
     .once ⟨1943, 8, 15⟩ ⟨1, 0, 0⟩ 3600,
     .once ⟨1944, 4, 2⟩ ⟨1, 0, 0⟩ 7200,
     .once ⟨1944, 9, 17⟩ ⟨1, 0, 0⟩ 3600,
     .once ⟨1945, 4, 2⟩ ⟨1, 0, 0⟩ 7200,
     .once ⟨1945, 7, 15⟩ ⟨1, 0, 0⟩ 3600,
     .once ⟨1945, 10, 7⟩ ⟨2, 0, 0⟩ 0,
     .once ⟨1946, 4, 14⟩ ⟨2, 0, 0⟩ 3600,
     .once ⟨1946, 10, 6⟩ ⟨2, 0, 0⟩ 0,
     .once ⟨1947, 3, 16⟩ ⟨2, 0, 0⟩ 3600,
     .once ⟨1947, 4, 13⟩ ⟨1, 0, 0⟩ 7200,
     .once ⟨1947, 8, 10⟩ ⟨1, 0, 0⟩ 3600,
     .once ⟨1947, 11, 2⟩ ⟨2, 0, 0⟩ 0,
     .once ⟨1948, 3, 14⟩ ⟨2, 0, 0⟩ 3600,
     .once ⟨1948, 10, 31⟩ ⟨2, 0, 0⟩ 0,
     .once ⟨1949, 4, 3⟩ ⟨2, 0, 0⟩ 3600,
     .once ⟨1949, 10, 30⟩ ⟨2, 0, 0⟩ 0,
     .once ⟨1950, 10, 22⟩ ⟨2, 0, 0⟩ 0,
     .once ⟨1951, 10, 21⟩ ⟨2, 0, 0⟩ 0,
     .once ⟨1952, 10, 26⟩ ⟨2, 0, 0⟩ 0,
     .once ⟨1954, 4, 11⟩ ⟨2, 0, 0⟩ 3600,
     .once ⟨1955, 4, 17⟩ ⟨2, 0, 0⟩ 3600,
     .once ⟨1956, 4, 22⟩ ⟨2, 0, 0⟩ 3600,
     .once ⟨1957, 4, 14⟩ ⟨2, 0, 0⟩ 3600,
     .once ⟨1958, 4, 20⟩ ⟨2, 0, 0⟩ 3600,
     .once ⟨1959, 4, 19⟩ ⟨2, 0, 0⟩ 3600,
     .once ⟨1960, 4, 10⟩ ⟨2, 0, 0⟩ 3600,
     .once ⟨1961, 3, 26⟩ ⟨2, 0, 0⟩ 3600,
     .once ⟨1962, 3, 25⟩ ⟨2, 0, 0⟩ 3600,
     .once ⟨1963, 3, 31⟩ ⟨2, 0, 0⟩ 3600,
     .once ⟨1968, 2, 18⟩ ⟨2, 0, 0⟩ 3600,
     .yearly 1925 1938 .sunday 10 2 ⟨2, 0, 0⟩ 0,
     .yearly 1950 1953 .sunday 4 14 ⟨2, 0, 0⟩ 3600,
     .yearly 1953 1960 .sunday 10 1 ⟨2, 0, 0⟩ 0,
     .yearly 1961 1967 .sunday 10 23 ⟨2, 0, 0⟩ 0,
     .yearly 1964 1967 .sunday 3 16 ⟨2, 0, 0⟩ 3600,
     .yearly 1971 1975 .sunday 10 25 ⟨2, 0, 0⟩ 0,
     .yearly 1972 1980 .sunday 3 15 ⟨2, 0, 0⟩ 3600,
     .yearly 1976 1980 .sunday 10 23 ⟨2, 0, 0⟩ 0,
     .yearly 1981 1994 .sunday 10 23 ⟨1, 0, 0⟩ 0,
     .yearly 1981 2099 .sunday 3 25 ⟨1, 0, 0⟩ 3600,
     .yearly 1995 1998 .sunday 10 21 ⟨1, 0, 0⟩ 0,
     .yearly 1999 2099 .sunday 10 25 ⟨1, 0, 0⟩ 0]

end DueTime.Zone
